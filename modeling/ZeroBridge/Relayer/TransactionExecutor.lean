import ZeroBridge.Relayer.CoordinatorClient
import ZeroBridge.Encoding.Hex

/-!
# What the executor submits, and how the gateways read it

`TransactionExecutor::execute_withdrawal` (`relayer/src/transaction_executor.rs`) routes an
authorized withdrawal by the type of its destination chain. For an EVM chain it sends call
data: a placeholder selector `0x12345678`, then the recipient's and the token's 20 address
bytes, the amount's 8 big-endian bytes, the nullifier and the signature, unpadded
(`evmCallData`). For Solana it sends an instruction whose data is the tag `2`, the amount's
8 little-endian bytes, the nullifier and the signature (`solanaInstructionData`). The
withdrawal's id is not among the arguments.

The destination reads these bytes by its call format, which the model states from the
documented formats (`anchorExecuteWithdrawal`, `abiExecuteWithdrawal`): Anchor's 8-byte
discriminator followed by the Borsh arrays `[u8; 32]` and `[u8; 65]`, and the Solidity ABI
encoding of `executeWithdrawal(address,address,uint256,bytes32,bytes)`. Neither hash that
fixes the discriminator or the selector is computed: every result holds for every value of
them.

**Payload against format** (`executor_payload_fields`): whenever Anchor accepts the Solana
data, its discriminator is the tag and the amount's 7 low bytes, its `withdrawal_id` is the
amount's top byte and the first 31 bytes of nullifier and signature, and its
`coordinator_signature` the 65 bytes after them; whenever the ABI reader accepts the EVM
call data, the selector is the placeholder, the recipient's 12 high bytes are zero, and the
recipient read is the recipient's low 8 bytes followed by the token's high 12.

**Panics.** The NEAR and Mina branches return the placeholder hash of `&nullifier[..8]`,
which panics on the nullifiers shorter than 8 bytes that `notify_withdrawal_handler` accepts
(`executor_panics_on_short_nullifier`). `processAuthorizedWithdrawalOutcome` is the loop's
turn with the executor's own outcome: when it does not panic, it is the turn of `Relayer` on
that answer. The served lists never get there: `process_authorized_withdrawals` first reads
the coordinator's answer with `query_authorized_withdrawals`, which reads no served list but
the empty one, so every turn on a served answer ends without a panic and changes nothing
(`served_list_never_panics`). The panic is latent, one field away: an answer that also carries
`timestamp` is read, and its short nullifier ends the poll loop
(`short_nullifier_panics_relayer`).
-/

namespace ZeroBridge

/-- `config::ChainType`. -/
inductive ChainType
  | ethereum | base | polygon | solana | near | mina
  deriving DecidableEq, Repr

/-- `ChainType::is_evm`. -/
def ChainType.isEvm : ChainType → Bool
  | .ethereum | .base | .polygon => true
  | _ => false

/-- What the executor reads of `config::ChainConfig`: the chain's type and the gateway's
address (for Solana, the program id). -/
structure ChainConfig where
  chainType : ChainType
  gatewayAddress : String
  deriving DecidableEq, Repr

/-- `n.to_be_bytes()` for a `w`-byte unsigned integer: its `w` low bytes, most significant
first. -/
def toBeBytes (w n : Nat) : Bytes := (toLeBytes w n).reverse

@[simp]
theorem length_toBeBytes (w n : Nat) : (toBeBytes w n).length = w := by
  simp [toBeBytes]

/-- The `k + w` low bytes, most significant first: the `k` bytes above the `w` low ones, then
those. -/
theorem toBeBytes_add (k w n : Nat) :
    toBeBytes (k + w) n = toBeBytes k (n / 256 ^ w) ++ toBeBytes w n := by
  rw [toBeBytes, Nat.add_comm, toLeBytes_add, List.reverse_append]
  rfl

/-- A number below `256 ^ w` in `k + w` bytes: `k` zero bytes, then its `w` low bytes. -/
theorem toBeBytes_of_lt {k w n : Nat} (h : n < 256 ^ w) :
    toBeBytes (k + w) n = List.replicate k 0 ++ toBeBytes w n := by
  rw [toBeBytes_add, Nat.div_eq_of_lt h, toBeBytes, toLeBytes_zero, List.reverse_replicate]

/-- `Address::from_str`: 40 hex digits, after an optional `0x`, as 20 bytes. -/
def parseAddress (s : String) : Option Bytes :=
  match hexDecodeChars (if s.data.take 2 = ['0', 'x'] then s.data.drop 2 else s.data) with
  | some b => if b.length = 20 then some b else none
  | none => none

theorem length_of_parseAddress {s : String} {b : Bytes} (h : parseAddress s = some b) :
    b.length = 20 := by
  unfold parseAddress at h
  split at h
  · split at h
    · cases h
      assumption
    · cases h
  · cases h

/-- The call data `execute_evm_withdrawal` sends, from the parsed addresses. -/
def evmCallData (recipient token : Bytes) (amount : Nat) (nullifier authSignature : Bytes) :
    Bytes :=
  [0x12, 0x34, 0x56, 0x78] ++ recipient ++ token ++ toBeBytes 8 amount ++ nullifier ++
    authSignature

/-- `execute_evm_withdrawal`, up to the call data it sends: `none` when an address does not
parse. -/
def executeEvmWithdrawal (recipient token : String) (amount : Nat) (nullifier authSignature : Bytes) :
    Option Bytes := do
  let recipientAddr ← parseAddress recipient
  let tokenAddr ← parseAddress token
  pure (evmCallData recipientAddr tokenAddr amount nullifier authSignature)

/-- `solana_sdk::instruction::Instruction`: the program, the accounts with their signer
flag, and the data. -/
structure SolanaInstruction where
  programId : String
  accounts : List (String × Bool)
  data : Bytes
  deriving DecidableEq, Repr

/-- The instruction data `execute_solana_withdrawal` sends. -/
def solanaInstructionData (amount : Nat) (nullifier authSignature : Bytes) : Bytes :=
  2 :: toLeBytes 8 amount ++ nullifier ++ authSignature

/-- `execute_solana_withdrawal`, up to the instruction it signs and sends: the payer as
signer, then the recipient and the token. -/
def executeSolanaWithdrawal (programId payer recipient token : String) (amount : Nat)
    (nullifier authSignature : Bytes) : SolanaInstruction :=
  ⟨programId, [(payer, true), (recipient, false), (token, false)],
    solanaInstructionData amount nullifier authSignature⟩

/-- What the executor sends to a destination chain. The NEAR and Mina branches send nothing:
they return a placeholder (`executeNearWithdrawal`, `executeMinaWithdrawal`). -/
inductive Submission
  | evm (gateway : String) (callData : Bytes)
  | solana (instruction : SolanaInstruction)
  | near
  | mina
  deriving DecidableEq, Repr

/-- Why `execute_withdrawal` sends nothing. -/
inductive ExecutorError
  /-- `Chain {chain_id} not configured`. -/
  | chainNotConfigured (chainId : Nat)
  /-- An address that does not parse. -/
  | invalidAddress
  deriving DecidableEq, Repr

/-- `TransactionExecutor::execute_withdrawal`, up to what it sends, routed by the chain's
type; `payer` is the relayer's Solana key. -/
def executeWithdrawal (getChain : Nat → Option ChainConfig) (payer : String) (chainId : Nat)
    (recipient token : String) (amount : Nat) (nullifier authSignature : Bytes) :
    Except ExecutorError Submission :=
  match getChain chainId with
  | none => .error (.chainNotConfigured chainId)
  | some c =>
    match c.chainType with
    | .ethereum | .base | .polygon =>
      match executeEvmWithdrawal recipient token amount nullifier authSignature with
      | some callData => .ok (.evm c.gatewayAddress callData)
      | none => .error .invalidAddress
    | .solana =>
      .ok (.solana (executeSolanaWithdrawal c.gatewayAddress payer recipient token amount nullifier
        authSignature))
    | .near => .ok .near
    | .mina => .ok .mina

/-- The placeholder that `execute_near_withdrawal` and `execute_mina_withdrawal` return in place
of a transaction: the hash `tag` and the hex of the nullifier's first 8 bytes, where
`&nullifier[..8]` panics on a shorter nullifier. -/
def placeholderWithdrawal (tag : String) (nullifier : Bytes) : Outcome String :=
  match slice nullifier 0 8 with
  | some b => .ok (tag ++ hexEncode b)
  | none => .panic

/-- `execute_near_withdrawal`, up to its result. -/
def executeNearWithdrawal (nullifier : Bytes) : Outcome String :=
  placeholderWithdrawal "near_tx_" nullifier

/-- `execute_mina_withdrawal`, up to its result. -/
def executeMinaWithdrawal (nullifier : Bytes) : Outcome String :=
  placeholderWithdrawal "mina_tx_" nullifier

/-- `TransactionExecutor::execute_withdrawal`, up to its result: for an EVM or a Solana chain,
the chain's answer to the submission (`chainResult`: a transaction hash, or `none` for an
error); for NEAR and Mina, the placeholder. -/
def executeWithdrawalOutcome (getChain : Nat → Option ChainConfig) (payer : String)
    (chainResult : Submission → Option String) (chainId : Nat) (recipient token : String)
    (amount : Nat) (nullifier authSignature : Bytes) : Outcome String :=
  match executeWithdrawal getChain payer chainId recipient token amount nullifier authSignature with
  | .error _ => .err
  | .ok .near => executeNearWithdrawal nullifier
  | .ok .mina => executeMinaWithdrawal nullifier
  | .ok s =>
    match chainResult s with
    | some txHash => .ok txHash
    | none => .err

/-- `execute_withdrawal` on the fields of an authorized withdrawal. -/
def AuthorizedWithdrawal.executeOutcome (getChain : Nat → Option ChainConfig) (payer : String)
    (chainResult : Submission → Option String) (w : AuthorizedWithdrawal) : Outcome String :=
  executeWithdrawalOutcome getChain payer chainResult w.targetChainId w.recipient w.token w.amount
    w.nullifier w.authorizationSignature

namespace Relayer

/-- One turn of `process_authorized_withdrawals` with the executor's own outcome: `none` when
the turn panics, which ends the relayer's poll task. Only an unclaimed withdrawal with a
signature reaches the executor. -/
def processAuthorizedWithdrawalOutcome (getChain : Nat → Option ChainConfig) (payer : String)
    (chainResult : Submission → Option String) (r : Relayer) (w : AuthorizedWithdrawal)
    (now : Int) : Option Relayer :=
  if r.p2pNetwork.isTaskClaimed w.withdrawalId now || !verifyCoordinatorSignature w then
    some (r.processAuthorizedWithdrawal w ⟨now, none⟩)
  else
    match w.executeOutcome getChain payer chainResult with
    | .ok txHash => some (r.processAuthorizedWithdrawal w ⟨now, some txHash⟩)
    | .err => some (r.processAuthorizedWithdrawal w ⟨now, none⟩)
    | .panic => none

/-- `process_authorized_withdrawals` with the executor's own outcomes, over the listed
withdrawals and each turn's clock: `none` once a turn panics. -/
def processAuthorizedWithdrawalsOutcome (getChain : Nat → Option ChainConfig) (payer : String)
    (chainResult : Submission → Option String) (r : Relayer)
    (authorized : List (AuthorizedWithdrawal × Int)) : Option Relayer :=
  authorized.foldlM
    (fun r wn => r.processAuthorizedWithdrawalOutcome getChain payer chainResult wn.1 wn.2) r

/-- `process_authorized_withdrawals` on the coordinator's answer, with the executor's own
outcomes: `query_authorized_withdrawals`, whose error ends the turn with `Err` (the poll loop
logs it), then one turn per listed withdrawal, the `i`-th at `clock i`; `none` once a turn
panics. -/
def processAuthorizedWithdrawalsOnAnswer (getChain : Nat → Option ChainConfig) (payer : String)
    (chainResult : Submission → Option String) (r : Relayer) (answer : Except Nat Json)
    (clock : Nat → Int) : Option Relayer :=
  match CoordinatorClient.queryAuthorizedWithdrawals answer with
  | .error _ => some r
  | .ok authorized => r.processAuthorizedWithdrawalsOutcome getChain payer chainResult
      (authorized.enum.map fun iw => (iw.2.toAuthorizedWithdrawal, clock iw.1))

end Relayer

theorem placeholderWithdrawal_eq_panic_iff (tag : String) (nullifier : Bytes) :
    placeholderWithdrawal tag nullifier = .panic ↔ nullifier.length < 8 := by
  rw [← slice_eq_none_iff (Nat.zero_le 8), placeholderWithdrawal]
  cases slice nullifier 0 8 <;> simp

/-- `execute_withdrawal` panics exactly on a NEAR or Mina chain with a nullifier shorter than
8 bytes. -/
theorem executeWithdrawalOutcome_eq_panic_iff (getChain : Nat → Option ChainConfig)
    (payer : String) (chainResult : Submission → Option String) (chainId : Nat)
    (recipient token : String) (amount : Nat) (nullifier authSignature : Bytes) :
    executeWithdrawalOutcome getChain payer chainResult chainId recipient token amount nullifier
        authSignature = .panic ↔
      ∃ c, getChain chainId = some c ∧ (c.chainType = .near ∨ c.chainType = .mina) ∧
        nullifier.length < 8 := by
  unfold executeWithdrawalOutcome executeWithdrawal
  rcases hc : getChain chainId with _ | c
  · simp
  rcases ht : c.chainType
  case near | mina =>
    simp [ht, executeNearWithdrawal, executeMinaWithdrawal, placeholderWithdrawal_eq_panic_iff]
  case solana =>
    simp only [ht]
    split <;> simp [ht]
  all_goals
    cases executeEvmWithdrawal recipient token amount nullifier authSignature
    · simp [ht]
    · simp only [ht]
      split <;> simp [ht]

/-! ### The gateways' call formats -/

/-- Why Anchor refuses an instruction (`InstructionMissing`, `InstructionFallbackNotFound`,
`InstructionDidNotDeserialize`). -/
inductive AnchorError
  | instructionMissing
  | instructionFallbackNotFound
  | instructionDidNotDeserialize
  deriving DecidableEq, Repr

/-- Modelled from the spec: how the Solana program reads instruction data as
`execute_withdrawal(withdrawal_id: [u8; 32], coordinator_signature: [u8; 65])` under the
instruction's 8-byte `discriminator`: the discriminator, then the two arrays by Borsh, each
its bytes in order; bytes after them are not read. -/
def anchorExecuteWithdrawal (discriminator data : Bytes) : Except AnchorError (Bytes × Bytes) :=
  if data.length < 8 then .error .instructionMissing
  else if data.take 8 ≠ discriminator then .error .instructionFallbackNotFound
  else if data.length < 8 + 32 + 65 then .error .instructionDidNotDeserialize
  else .ok ((data.drop 8).take 32, (data.drop 40).take 65)

theorem beNat_replicate_zero (k : Nat) : beNat (List.replicate k 0) = 0 := by
  induction k with
  | zero => rfl
  | succ k ih => rw [beNat, List.replicate_succ', List.foldl_append, ← beNat, ih]; rfl

/-- The arguments of an `executeWithdrawal` call on an EVM gateway. -/
structure EvmCall where
  recipient : Bytes
  token : Bytes
  amount : Nat
  nullifier : Bytes
  authSignature : Bytes
  deriving DecidableEq, Repr

/-- Why a Solidity gateway reverts on call data. -/
inductive AbiError
  | unknownSelector
  | shortHead
  | dirtyAddress
  | offsetOutOfBounds
  | lengthOutOfBounds
  deriving DecidableEq, Repr

/-- Modelled from the spec: the Solidity ABI decoding of call data as
`executeWithdrawal(address,address,uint256,bytes32,bytes)` under its 4-byte `selector`: five
32-byte head words, an address word with its 12 high bytes zero, and the `bytes` argument at
the offset its head word gives: a length word, then that many bytes, within the data. -/
def abiExecuteWithdrawal (selector data : Bytes) : Except AbiError EvmCall :=
  let args := data.drop 4
  let word (i : Nat) := (args.drop (32 * i)).take 32
  let offset := beNat (word 4)
  let length := beNat ((args.drop offset).take 32)
  if data.take 4 ≠ selector then .error .unknownSelector
  else if args.length < 32 * 5 then .error .shortHead
  else if (word 0).take 12 ≠ List.replicate 12 0 ∨ (word 1).take 12 ≠ List.replicate 12 0 then
    .error .dirtyAddress
  else if args.length < offset + 32 then .error .offsetOutOfBounds
  else if args.length < offset + 32 + length then .error .lengthOutOfBounds
  else .ok ⟨(word 0).drop 12, (word 1).drop 12, beNat (word 2), word 3,
    (args.drop (offset + 32)).take length⟩

/-- What an accepted Anchor instruction is made of. -/
theorem anchorExecuteWithdrawal_eq_ok {discriminator data withdrawalId signature : Bytes}
    (h : anchorExecuteWithdrawal discriminator data = .ok (withdrawalId, signature)) :
    data.take 8 = discriminator ∧ 105 ≤ data.length ∧ withdrawalId = (data.drop 8).take 32 ∧
      signature = (data.drop 40).take 65 := by
  unfold anchorExecuteWithdrawal at h
  split_ifs at h with hshort hdisc hlen
  cases h
  exact ⟨not_not.mp hdisc, by omega, rfl, rfl⟩

/-- What an accepted ABI call is made of. -/
theorem abiExecuteWithdrawal_eq_ok {selector data : Bytes} {call : EvmCall}
    (h : abiExecuteWithdrawal selector data = .ok call) :
    data.take 4 = selector ∧ 160 ≤ (data.drop 4).length ∧
      ((data.drop 4).take 32).take 12 = List.replicate 12 0 ∧
      call.recipient = ((data.drop 4).take 32).drop 12 := by
  unfold abiExecuteWithdrawal at h
  by_cases hsel : data.take 4 ≠ selector
  · rw [if_pos hsel] at h
    cases h
  rw [if_neg hsel] at h
  by_cases hhead : (data.drop 4).length < 32 * 5
  · rw [if_pos hhead] at h
    cases h
  rw [if_neg hhead] at h
  split at h
  · cases h
  rename_i haddr
  split at h
  · cases h
  split at h
  · cases h
  cases h
  exact ⟨not_not.mp hsel, by omega, not_not.mp (not_or.mp haddr).1, rfl⟩

/-- Call data too short for the five head words is refused under every selector. -/
theorem abiExecuteWithdrawal_of_short (selector : Bytes) {data : Bytes}
    (h : (data.drop 4).length < 32 * 5) :
    abiExecuteWithdrawal selector data = .error .unknownSelector ∨
      abiExecuteWithdrawal selector data = .error .shortHead := by
  unfold abiExecuteWithdrawal
  by_cases hsel : data.take 4 ≠ selector
  · exact .inl (if_pos hsel)
  · exact .inr ((if_neg hsel).trans (if_pos h))

/-! ### The executor's bytes, as the gateways read them -/

/-- The Solana data past the discriminator's 8 bytes. -/
theorem solanaInstructionData_split (amount : Nat) (nullifier authSignature : Bytes) :
    (solanaInstructionData amount nullifier authSignature).take 8 = 2 :: (toLeBytes 8 amount).take 7 ∧
    (solanaInstructionData amount nullifier authSignature).drop 8 =
      (toLeBytes 8 amount).drop 7 ++ nullifier ++ authSignature := by
  have h8 : (toLeBytes 8 amount).length = 8 := length_toLeBytes 8 amount
  simp only [solanaInstructionData, List.cons_append, List.append_assoc, List.take_succ_cons,
    List.drop_succ_cons]
  constructor
  · rw [List.take_append_of_le_length (by omega)]
  · rw [List.drop_append_of_le_length (by omega)]

/-- The EVM call data's first head word: the recipient's 20 bytes and the token's first 12. -/
theorem evmCallData_head {recipient token : Bytes} (hr : recipient.length = 20)
    (ht : token.length = 20) (amount : Nat) (nullifier authSignature : Bytes) :
    (evmCallData recipient token amount nullifier authSignature).take 4 = [0x12, 0x34, 0x56, 0x78] ∧
    ((evmCallData recipient token amount nullifier authSignature).drop 4).take 32 =
      recipient ++ token.take 12 ∧
    ((evmCallData recipient token amount nullifier authSignature).drop 4).length =
      48 + nullifier.length + authSignature.length := by
  have h8 : (toBeBytes 8 amount).length = 8 := by simp [toBeBytes, length_toLeBytes]
  simp only [evmCallData, List.append_assoc]
  refine ⟨rfl, ?_, ?_⟩
  · simp only [List.cons_append, List.drop_succ_cons, List.drop_zero, List.nil_append]
    rw [List.take_append_eq_append_take, hr, List.take_of_length_le (by omega),
      List.take_append_of_le_length (by omega)]
  · simp only [List.cons_append, List.drop_succ_cons, List.drop_zero, List.nil_append,
      List.length_append, hr, ht, h8]
    omega

/-- What the executor sends to a Solana chain. -/
theorem executeWithdrawal_eq_solana {getChain : Nat → Option ChainConfig} {payer : String}
    {chainId : Nat} {recipient token : String} {amount : Nat} {nullifier authSignature : Bytes}
    {instruction : SolanaInstruction}
    (h : executeWithdrawal getChain payer chainId recipient token amount nullifier authSignature =
      .ok (.solana instruction)) :
    ∃ c, getChain chainId = some c ∧ c.chainType = .solana ∧
      instruction = executeSolanaWithdrawal c.gatewayAddress payer recipient token amount nullifier
        authSignature := by
  unfold executeWithdrawal at h
  split at h <;> (try split at h) <;> (try split at h) <;>
    first | (cases h; done) | (cases h; exact ⟨_, ‹_›, ‹_›, rfl⟩)

/-- What the executor sends to an EVM chain. -/
theorem executeWithdrawal_eq_evm {getChain : Nat → Option ChainConfig} {payer : String}
    {chainId : Nat} {recipient token : String} {amount : Nat} {nullifier authSignature : Bytes}
    {gateway : String} {callData : Bytes}
    (h : executeWithdrawal getChain payer chainId recipient token amount nullifier authSignature =
      .ok (.evm gateway callData)) :
    ∃ recipientAddr tokenAddr, parseAddress recipient = some recipientAddr ∧
      parseAddress token = some tokenAddr ∧
      callData = evmCallData recipientAddr tokenAddr amount nullifier authSignature := by
  have hevm : executeEvmWithdrawal recipient token amount nullifier authSignature = some callData := by
    unfold executeWithdrawal at h
    split at h <;> (try split at h) <;> (try split at h) <;>
      first | (cases h; done) | (cases h; assumption)
  simp only [executeEvmWithdrawal, Option.bind_eq_bind, Option.bind_eq_some, Option.pure_def,
    Option.some.injEq] at hevm
  obtain ⟨r, hr, t, ht, rfl⟩ := hevm
  exact ⟨r, t, hr, ht, rfl⟩

/-- **Payload against format.** For every authorized withdrawal the executor sends on:
whenever the Solana program reads its instruction data as `execute_withdrawal`, under any
discriminator, the discriminator is the tag `2` and the amount's 7 low bytes, the
`withdrawal_id` read is the amount's top byte followed by the first 31 bytes of nullifier and
signature, and the `coordinator_signature` read is the 65 bytes after those; whenever an EVM
gateway reads its call data as `executeWithdrawal`, under any selector, the selector is the
placeholder `0x12345678`, nullifier and signature have 112 bytes or more, the recipient's 12
high bytes are zero, and the recipient read is its 8 low bytes followed by the token's first
12. -/
theorem executor_payload_fields (getChain : Nat → Option ChainConfig) (payer : String)
    (a : AuthorizedWithdrawal) :
    (∀ instruction, executeWithdrawal getChain payer a.targetChainId a.recipient a.token a.amount
        a.nullifier a.authorizationSignature = .ok (.solana instruction) →
      ∀ discriminator withdrawalId signature,
        anchorExecuteWithdrawal discriminator instruction.data = .ok (withdrawalId, signature) →
        discriminator = 2 :: (toLeBytes 8 a.amount).take 7 ∧
        withdrawalId =
          ((toLeBytes 8 a.amount).drop 7 ++ a.nullifier ++ a.authorizationSignature).take 32 ∧
        signature =
          (((toLeBytes 8 a.amount).drop 7 ++ a.nullifier ++ a.authorizationSignature).drop 32).take
            65) ∧
    (∀ gateway callData, executeWithdrawal getChain payer a.targetChainId a.recipient a.token
        a.amount a.nullifier a.authorizationSignature = .ok (.evm gateway callData) →
      ∀ selector call, abiExecuteWithdrawal selector callData = .ok call →
        selector = [0x12, 0x34, 0x56, 0x78] ∧ 112 ≤ a.nullifier.length + a.authorizationSignature.length ∧
        ∃ recipient token, parseAddress a.recipient = some recipient ∧
          parseAddress a.token = some token ∧ recipient.take 12 = List.replicate 12 0 ∧
          call.recipient = recipient.drop 12 ++ token.take 12) := by
  constructor
  · intro instruction hexec discriminator withdrawalId signature hdec
    obtain ⟨c, -, -, rfl⟩ := executeWithdrawal_eq_solana hexec
    obtain ⟨hdisc, -, hid, hsig⟩ := anchorExecuteWithdrawal_eq_ok hdec
    obtain ⟨htake, hdrop⟩ := solanaInstructionData_split a.amount a.nullifier a.authorizationSignature
    refine ⟨hdisc.symm.trans htake, hid.trans (congrArg _ hdrop), ?_⟩
    rw [hsig, show (40 : Nat) = 8 + 32 from rfl, ← List.drop_drop]
    exact congrArg _ (congrArg _ hdrop)
  · intro gateway callData hexec selector call hdec
    obtain ⟨r, t, hr, ht, rfl⟩ := executeWithdrawal_eq_evm hexec
    have hr20 := length_of_parseAddress hr
    obtain ⟨hsel, hhead, hzero, hrec⟩ := abiExecuteWithdrawal_eq_ok hdec
    obtain ⟨hsel', hword, hlen⟩ := evmCallData_head hr20 (length_of_parseAddress ht) a.amount
      a.nullifier a.authorizationSignature
    rw [hword, List.take_append_of_le_length (by omega)] at hzero
    rw [hword, List.drop_append_of_le_length (by omega)] at hrec
    exact ⟨hsel.symm.trans hsel', by omega, r, t, hr, ht, hzero, hrec⟩

/-- The chains of a sample relayer: the Solana program on chain `900`, a gateway on Base. -/
def ChainConfig.sample : Nat → Option ChainConfig
  | 900 => some ⟨.solana, "Gateway1111111111111111111111111111111111111"⟩
  | 8453 => some ⟨.base, "0x0000000000000000000000000000000000000001"⟩
  | _ => none

/-- A withdrawal of 5 units to Solana, with a 32-byte nullifier and a 65-byte signature. -/
def AuthorizedWithdrawal.toSolana : AuthorizedWithdrawal :=
  ⟨"w1", 900, "Recipient1111111111111111111111111111111111", "Mint111111111111111111111111111111111111111",
    5, List.replicate 32 7, (List.range 65).map UInt8.ofNat⟩

/-- The instruction data is read as `execute_withdrawal` under its own first 8 bytes as
discriminator. -/
theorem executor_payload_fields_sample :
    ∃ instruction withdrawalId signature,
      executeWithdrawal ChainConfig.sample "Payer" AuthorizedWithdrawal.toSolana.targetChainId
        AuthorizedWithdrawal.toSolana.recipient AuthorizedWithdrawal.toSolana.token
        AuthorizedWithdrawal.toSolana.amount AuthorizedWithdrawal.toSolana.nullifier
        AuthorizedWithdrawal.toSolana.authorizationSignature = .ok (.solana instruction) ∧
      anchorExecuteWithdrawal [2, 5, 0, 0, 0, 0, 0, 0] instruction.data =
        .ok (withdrawalId, signature) ∧
      signature = (((toLeBytes 8 5).drop 7 ++ AuthorizedWithdrawal.toSolana.nullifier ++
        AuthorizedWithdrawal.toSolana.authorizationSignature).drop 32).take 65 := by
  refine ⟨_, _, _, rfl, rfl, ?_⟩
  exact ((executor_payload_fields ChainConfig.sample "Payer" .toSolana).1 _ rfl
    [2, 5, 0, 0, 0, 0, 0, 0] _ _ (by rfl)).2.2

set_option maxRecDepth 4000 in
/-- **The executor's bytes are not the gateways' calls.** On Solana the program, under any
discriminator it accepts, reads as `coordinator_signature` the nullifier's last byte and the
first 64 bytes of the signature. On Base the gateway reverts under every selector: 145 bytes
of arguments do not hold the five head words of `executeWithdrawal`. -/
theorem executor_payload_not_execute_call :
    (∃ instruction, executeWithdrawal ChainConfig.sample "Payer" 900
        AuthorizedWithdrawal.toSolana.recipient AuthorizedWithdrawal.toSolana.token 5
        (List.replicate 32 7) AuthorizedWithdrawal.toSolana.authorizationSignature =
          .ok (.solana instruction) ∧
      ∀ discriminator withdrawalId signature,
        anchorExecuteWithdrawal discriminator instruction.data = .ok (withdrawalId, signature) →
        signature = 7 :: AuthorizedWithdrawal.toSolana.authorizationSignature.take 64 ∧
        signature ≠ AuthorizedWithdrawal.toSolana.authorizationSignature) ∧
    (∃ gateway callData, executeWithdrawal ChainConfig.sample "Payer" 8453
        "0x7e5f4552091a69125d5dfcb7b8c2659029395bdf" "0x833589fCD6eDb6E08f4c7C32D4f71b54bdA02913" 5
        (List.replicate 32 7) AuthorizedWithdrawal.toSolana.authorizationSignature =
          .ok (.evm gateway callData) ∧
      ∀ selector, abiExecuteWithdrawal selector callData = .error .unknownSelector ∨
        abiExecuteWithdrawal selector callData = .error .shortHead) := by
  refine ⟨⟨_, rfl, fun discriminator withdrawalId signature h => ?_⟩,
    ⟨_, _, rfl, fun selector => abiExecuteWithdrawal_of_short selector (by decide)⟩⟩
  rw [(anchorExecuteWithdrawal_eq_ok h).2.2.2]
  decide

/-! ### Panics -/

/-- A relayer that knows one NEAR chain, `397`. -/
def ChainConfig.withNear : Nat → Option ChainConfig
  | 397 => some ⟨.near, "gateway.near"⟩
  | _ => none

/-- **No served list makes the relayer panic.** For every store and every outcome of the
coordinator's `SELECT`, and for every relayer state, chain table, payer, chain answers and
clock, the turn of `process_authorized_withdrawals` on what `/withdrawals/authorized` answers
ends without a panic and with the relayer as it was: the answer is an error status, the empty
list, or a non-empty list that the client refuses before the loop runs. No served withdrawal
reaches `execute_withdrawal`. -/
theorem served_list_never_panics (db : Database) (ok : Bool)
    (getChain : Nat → Option ChainConfig) (payer : String)
    (chainResult : Submission → Option String) (r : Relayer) (clock : Nat → Int) :
    r.processAuthorizedWithdrawalsOnAnswer getChain payer chainResult
      (authorizedWithdrawalsResponse db ok) clock = some r := by
  unfold Relayer.processAuthorizedWithdrawalsOnAnswer
  split
  · rfl
  · rename_i l hl
    rw [queryAuthorizedWithdrawals_served hl]
    rfl

/-- A signed withdrawal to NEAR with the one-byte nullifier `[7]`, which
`notify_withdrawal_handler` stores as it is. -/
def AuthorizedWithdrawal.toNear : AuthorizedWithdrawal :=
  ⟨"w-near", 397, "alice.near", "wrap.near", 5, [7], [1]⟩

/-- That withdrawal as `/withdrawals/authorized` would serve it if the coordinator also wrote
`timestamp`. -/
def timestampedNearAnswer : Except Nat Json :=
  .ok (.arr [.obj [("withdrawal_id", .str "w-near"), ("target_chain_id", .num 397),
    ("recipient", .str "alice.near"), ("token", .str "wrap.near"), ("amount", .num 5),
    ("nullifier", .ofBytes [7]), ("authorization_signature", .ofBytes [1]),
    ("timestamp", .num 0)]])

/-- **The panic is one field away.** The client reads the timestamped answer as the NEAR
withdrawal, and a fresh relayer that knows the NEAR chain panics in its first turn on it,
whatever the chains answer. -/
theorem short_nullifier_panics_relayer :
    CoordinatorClient.queryAuthorizedWithdrawals timestampedNearAnswer = .ok [⟨.toNear, 0⟩] ∧
    (Relayer.init "relayer").processAuthorizedWithdrawalsOnAnswer ChainConfig.withNear "Payer"
      (fun _ => none) timestampedNearAnswer (fun _ => 0) = none :=
  ⟨rfl, rfl⟩

end ZeroBridge
