import ZeroBridge.Relayer.PollLoop
import ZeroBridge.Coordinator.RpcServer

/-!
# The relayer's client of the coordinator

`CoordinatorClient` (`relayer/src/coordinator_client.rs`) writes the bodies of
`/deposits/notify` and `/withdrawals/notify` and reads the answer of
`/withdrawals/authorized`. Each side has its own copy of the structs, so each body is written
by one derive and read by another (`Encoding/Json.lean`).

**The notifications agree** (`rpc_bodies_decode`): every relayer `DepositNotification`, and
every body `notify_withdrawal` builds, reads back on the coordinator as the same field
values. **The authorized list does not**: the relayer's `AuthorizedWithdrawal` declares a
`timestamp` that the coordinator's never writes, so every non-empty answer is refused with
``missing field `timestamp` `` (for records whose numbers are `u64` values), and only the
empty list is read.

**The liquidity check agrees** (`liquidity_check_agrees`): the body `check_liquidity` posts
reads on the coordinator as its arguments, and its answer is `true` exactly when the
coordinator's own `ensure_liquidity` passes for them.

**The status of a deposit** (`deposit_status_pending_only`): `check_deposit_status` reads the
`processed` field of `/deposits/{id}/status`, which only ever reports unprocessed deposits,
so it is `false` for every store, a processed deposit included
(`processed_deposit_reported_unknown`).
-/

namespace ZeroBridge

namespace CoordinatorClient

/-- `coordinator_client::DepositNotification`: the relayer's copy, with its `u64` fields. -/
structure DepositNotification where
  depositId : String
  sourceChainId : UInt64
  targetChainId : UInt64
  sender : String
  token : String
  amount : UInt64
  recipient : Bytes
  zcashAddress : Bytes
  timestamp : UInt64
  deriving DecidableEq, Repr

/-- The body `notify_deposit` posts: the notification by its derived `Serialize`. -/
def DepositNotification.toJson (d : DepositNotification) : Json :=
  .obj [("deposit_id", .str d.depositId), ("source_chain_id", .num d.sourceChainId.toNat),
    ("target_chain_id", .num d.targetChainId.toNat), ("sender", .str d.sender),
    ("token", .str d.token), ("amount", .num d.amount.toNat), ("recipient", .ofBytes d.recipient),
    ("zcash_address", .ofBytes d.zcashAddress), ("timestamp", .num d.timestamp.toNat)]

/-- The body `notify_withdrawal` posts: the `json!` object of its arguments. (`serde_json`
may order the keys otherwise; no reader depends on the order.) -/
def notifyWithdrawal (withdrawalId : String) (targetChainId : UInt64) (recipient token : String)
    (amount : UInt64) (nullifier zcashProof merkleRoot : Bytes) : Json :=
  .obj [("withdrawal_id", .str withdrawalId), ("target_chain_id", .num targetChainId.toNat),
    ("recipient", .str recipient), ("token", .str token), ("amount", .num amount.toNat),
    ("nullifier", .ofBytes nullifier), ("zcash_proof", .ofBytes zcashProof),
    ("merkle_root", .ofBytes merkleRoot)]

/-- `coordinator_client::AuthorizedWithdrawal`: the record the poll loop works on, and a
`timestamp`. -/
structure AuthorizedWithdrawal extends ZeroBridge.AuthorizedWithdrawal where
  timestamp : Nat
  deriving DecidableEq, Repr

/-- `coordinator_client::AuthorizedWithdrawal`, read by its derived `Deserialize`. -/
def AuthorizedWithdrawal.fromJson : Json → Except JsonError AuthorizedWithdrawal
  | .obj e => do
    let withdrawalId ← Json.getField e "withdrawal_id" Json.toStr
    let targetChainId ← Json.getField e "target_chain_id" Json.toU64
    let recipient ← Json.getField e "recipient" Json.toStr
    let token ← Json.getField e "token" Json.toStr
    let amount ← Json.getField e "amount" Json.toU64
    let nullifier ← Json.getField e "nullifier" Json.toBytes
    let authorizationSignature ← Json.getField e "authorization_signature" Json.toBytes
    let timestamp ← Json.getField e "timestamp" Json.toU64
    pure ⟨⟨withdrawalId, targetChainId, recipient, token, amount, nullifier,
      authorizationSignature⟩, timestamp⟩
  | _ => .error (.invalidType "struct AuthorizedWithdrawal")

/-- Why `query_authorized_withdrawals` fails: the coordinator answered with an error status,
or its body does not read as a `Vec<AuthorizedWithdrawal>`. -/
inductive QueryError
  | status (code : Nat)
  | decode (e : JsonError)
  deriving DecidableEq, Repr

/-- `query_authorized_withdrawals`, on the coordinator's answer: an error status, or a body. -/
def queryAuthorizedWithdrawals : Except Nat Json → Except QueryError (List AuthorizedWithdrawal)
  | .error code => .error (.status code)
  | .ok (.arr xs) => (xs.mapM AuthorizedWithdrawal.fromJson).mapError .decode
  | .ok _ => .error (.decode (.invalidType "a sequence"))

/-- `check_deposit_status`, on the coordinator's answer: `false` for an error status, else
the body's `processed` as a boolean, `false` when it is not one. -/
def checkDepositStatus : Except Nat Json → Bool
  | .error _ => false
  | .ok body => ((body.index "processed").asBool).getD false

/-- The body `check_liquidity` posts: the `json!` object of its arguments. -/
def checkLiquidityBody (chainId : UInt64) (token : String) (amount : UInt64) : Json :=
  .obj [("chain_id", .num chainId.toNat), ("token", .str token), ("amount", .num amount.toNat)]

/-- `check_liquidity`, on the coordinator's answer: `false` for an error status, else the
body's `available` as a boolean, `false` when it is not one. -/
def checkLiquidity : Except Nat Json → Bool
  | .error _ => false
  | .ok body => ((body.index "available").asBool).getD false

end CoordinatorClient

/-- The answer of `/deposits/{id}/status`: the handler's status, or its record written by
the derived `Serialize`. -/
def depositStatusResponse (db : Database) (ok : Bool) (depositId : String) : Except Nat Json :=
  (depositStatusHandler db ok depositId).map DepositStatusResponse.toJson

/-- The answer of `/withdrawals/authorized`: the handler's status, or its list written by the
derived `Serialize` of `Vec<AuthorizedWithdrawal>`. -/
def authorizedWithdrawalsResponse (db : Database) (ok : Bool) : Except Nat Json :=
  (authorizedWithdrawalsHandler db ok).map fun l => .arr (l.map RpcServer.AuthorizedWithdrawal.toJson)

/-- The answer of `/liquidity/check`: the handler's status, or its record written by the
derived `Serialize`. -/
def liquidityCheckResponse (lm : LiquidityManager) (body : Json) : Except Nat Json :=
  (checkLiquidityHandler lm body).map LiquidityCheckResponse.toJson

/-- A served record is read up to its missing `timestamp`: refused for that, or for a number
that is not a `u64`. -/
theorem fromJson_toJson (a : RpcServer.AuthorizedWithdrawal) :
    CoordinatorClient.AuthorizedWithdrawal.fromJson a.toJson =
      .error (if a.targetChainId < 2 ^ 64 ∧ a.amount < 2 ^ 64 then .missingField "timestamp"
        else .invalidValue "u64") := by
  by_cases hc : a.targetChainId < 2 ^ 64
  · by_cases ha : a.amount < 2 ^ 64
    · rw [if_pos ⟨hc, ha⟩]
      simp [CoordinatorClient.AuthorizedWithdrawal.fromJson, RpcServer.AuthorizedWithdrawal.toJson,
        Json.getField, Json.toU64_num hc, Json.toU64_num ha]
    · rw [if_neg fun h => ha h.2]
      simp [CoordinatorClient.AuthorizedWithdrawal.fromJson, RpcServer.AuthorizedWithdrawal.toJson,
        Json.getField, Json.toU64_num hc, Json.toU64_num_of_le (not_lt.mp ha)]
  · rw [if_neg fun h => hc h.1]
    simp [CoordinatorClient.AuthorizedWithdrawal.fromJson, RpcServer.AuthorizedWithdrawal.toJson,
      Json.getField, Json.toU64_num_of_le (not_lt.mp hc)]

/-- A non-empty served list is refused at its first record. -/
theorem queryAuthorizedWithdrawals_cons (a : RpcServer.AuthorizedWithdrawal)
    (l : List RpcServer.AuthorizedWithdrawal) :
    CoordinatorClient.queryAuthorizedWithdrawals
        (.ok (.arr ((a :: l).map RpcServer.AuthorizedWithdrawal.toJson))) =
      .error (.decode (if a.targetChainId < 2 ^ 64 ∧ a.amount < 2 ^ 64 then
        .missingField "timestamp" else .invalidValue "u64")) := by
  simp only [CoordinatorClient.queryAuthorizedWithdrawals, List.map_cons, List.mapM_cons,
    fromJson_toJson, Except.error_bind]
  rfl

/-- What the client reads of every answer of `/withdrawals/authorized`: nothing but the empty
list. -/
theorem queryAuthorizedWithdrawals_served {db : Database} {ok : Bool}
    {l : List CoordinatorClient.AuthorizedWithdrawal}
    (h : CoordinatorClient.queryAuthorizedWithdrawals (authorizedWithdrawalsResponse db ok) = .ok l) :
    l = [] := by
  unfold authorizedWithdrawalsResponse at h
  cases hs : authorizedWithdrawalsHandler db ok with
  | error => rw [hs] at h; cases h
  | ok served =>
    rw [hs] at h
    cases served with
    | nil => cases h; rfl
    | cons a served => rw [Except.map, queryAuthorizedWithdrawals_cons] at h; cases h

/-- **The RPC bodies, as each side reads the other's.** A relayer `DepositNotification`, and
the body `notify_withdrawal` builds from its arguments, read on the coordinator as the same
field values. The coordinator's list of authorized withdrawals reads on the relayer only when
it is empty: a non-empty list is refused at its first record, for its missing `timestamp`
when its numbers are `u64` values. -/
theorem rpc_bodies_decode :
    (∀ d : CoordinatorClient.DepositNotification,
      DepositNotification.fromJson d.toJson = .ok ⟨d.depositId, d.sourceChainId.toNat,
        d.targetChainId.toNat, d.sender, d.token, d.amount.toNat, d.recipient, d.zcashAddress,
        d.timestamp.toNat⟩) ∧
    (∀ withdrawalId targetChainId recipient token amount nullifier zcashProof merkleRoot,
      WithdrawalNotification.fromJson (CoordinatorClient.notifyWithdrawal withdrawalId
          targetChainId recipient token amount nullifier zcashProof merkleRoot) =
        .ok ⟨withdrawalId, targetChainId.toNat, recipient, token, amount.toNat, nullifier,
          zcashProof, merkleRoot⟩) ∧
    CoordinatorClient.queryAuthorizedWithdrawals
        (.ok (.arr (List.map RpcServer.AuthorizedWithdrawal.toJson []))) = .ok [] ∧
    ∀ (a : RpcServer.AuthorizedWithdrawal) (l : List RpcServer.AuthorizedWithdrawal),
      CoordinatorClient.queryAuthorizedWithdrawals
          (.ok (.arr ((a :: l).map RpcServer.AuthorizedWithdrawal.toJson))) =
        .error (.decode (if a.targetChainId < 2 ^ 64 ∧ a.amount < 2 ^ 64 then
          .missingField "timestamp" else .invalidValue "u64")) := by
  refine ⟨fun d => ?_, fun _ _ _ _ _ _ _ _ => ?_, rfl, queryAuthorizedWithdrawals_cons⟩
  · simp [DepositNotification.fromJson, CoordinatorClient.DepositNotification.toJson, Json.getField]
  · simp [WithdrawalNotification.fromJson, CoordinatorClient.notifyWithdrawal, Json.getField]

/-- **The relayer cannot read an authorized withdrawal.** Once the coordinator has authorized
the USDC withdrawal, `/withdrawals/authorized` answers a one-record list, and
`query_authorized_withdrawals` refuses it for the missing `timestamp`. -/
theorem authorized_list_refused :
    CoordinatorClient.queryAuthorizedWithdrawals (authorizedWithdrawalsResponse (run
      Services.testFileSpentList (Coordinator.init LiquidityManager.sample []) usdcAuthorizeRun).db
        true) = .error (.decode (.missingField "timestamp")) :=
  rfl

/-- **Processed deposits are unknown.** For every store and deposit id: when the `SELECT`
succeeds, `/deposits/{id}/status` answers 404 exactly when no deposit with the id is stored or
the stored one is processed, and otherwise that deposit's record, unprocessed; and
`check_deposit_status` is `false` on every answer the endpoint gives, whatever the store. -/
theorem deposit_status_pending_only (db : Database) (depositId : String) :
    (depositStatusHandler db true depositId = .error 404 ↔
      ∀ d, db.deposits.find? depositId = some d → d.processed = true) ∧
    (∀ d, db.deposits.find? depositId = some d → d.processed = false →
      depositStatusHandler db true depositId =
        .ok ⟨depositId, false, d.zcashTxid, d.noteCommitment⟩) ∧
    ∀ ok, CoordinatorClient.checkDepositStatus (depositStatusResponse db ok depositId) = false := by
  refine ⟨?_, fun d hd hp => by simp [depositStatusHandler_true, hd, hp], fun ok => ?_⟩
  · rw [depositStatusHandler_true]
    cases hd : db.deposits.find? depositId with
    | none => simp
    | some d => cases hp : d.processed <;> simp [hp]
  · cases ok
    · rfl
    · rw [depositStatusResponse, depositStatusHandler_true]
      cases db.deposits.find? depositId with
      | none => rfl
      | some d =>
        dsimp only
        cases d.processed <;> rfl

/-- `check_liquidity` reads back the `available` the handler wrote. -/
theorem checkLiquidity_toJson (r : LiquidityCheckResponse) :
    CoordinatorClient.checkLiquidity (.ok r.toJson) = r.available :=
  rfl

/-- The body `check_liquidity` posts reads on the coordinator as its arguments. -/
theorem fromJson_checkLiquidityBody (chainId : UInt64) (token : String) (amount : UInt64) :
    LiquidityCheckRequest.fromJson (CoordinatorClient.checkLiquidityBody chainId token amount) =
      .ok ⟨chainId.toNat, token, amount.toNat⟩ := by
  simp [LiquidityCheckRequest.fromJson, CoordinatorClient.checkLiquidityBody, Json.getField]

/-- **The relayer's liquidity check is the coordinator's.** For every state of the liquidity
manager, and every chain, token and amount the relayer passes as `u64`s, `check_liquidity`
answers `true` exactly when `ensure_liquidity`, the check `handle_deposit` makes before it
creates a note, succeeds on the same chain, token and amount: the pool exists and holds at
least the amount available. -/
theorem liquidity_check_agrees (lm : LiquidityManager) (chainId : UInt64) (token : String)
    (amount : UInt64) :
    CoordinatorClient.checkLiquidity
        (liquidityCheckResponse lm (CoordinatorClient.checkLiquidityBody chainId token amount)) =
        true ↔
      lm.ensureLiquidity chainId.toNat token amount.toNat = .ok () := by
  rw [liquidityCheckResponse, checkLiquidityHandler, fromJson_checkLiquidityBody,
    LiquidityManager.ensureLiquidity]
  dsimp only
  cases lm.getPool chainId.toNat token with
  | none => simp [Except.map, checkLiquidity_toJson]
  | some p =>
    simp only [Except.map, checkLiquidity_toJson, decide_eq_true_eq]
    split <;> simp <;> omega

/-- A deposit notified and handled by the loop. -/
def processedDepositRun : List Event :=
  [.notifyDeposit .sample true, .tick .allOk, .tick .allOk]

/-- **A processed deposit is reported unknown.** After one pass of the loop, deposit `d1` is
stored and processed, yet its status endpoint answers 404 and `check_deposit_status` returns
`false`. -/
theorem processed_deposit_reported_unknown :
    ((run Services.sample (Coordinator.init LiquidityManager.sample ()) processedDepositRun
      ).db.deposits.find? "d1").map Deposit.processed = some true ∧
    depositStatusHandler (run Services.sample (Coordinator.init LiquidityManager.sample ())
      processedDepositRun).db true "d1" = .error 404 ∧
    CoordinatorClient.checkDepositStatus (depositStatusResponse (run Services.sample
      (Coordinator.init LiquidityManager.sample ()) processedDepositRun).db true "d1") = false :=
  ⟨by decide, rfl, rfl⟩

end ZeroBridge
