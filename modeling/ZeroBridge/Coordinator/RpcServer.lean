import ZeroBridge.Coordinator.WithdrawalLifecycle
import ZeroBridge.Encoding.Json

/-!
# What the coordinator serves to relayers

`authorized_withdrawals_handler` (`rpc_server.rs`) answers `/withdrawals/authorized` with one
`AuthorizedWithdrawal` per authorized row that carries a signature, oldest first, copying the
row's fields. Those fields are the ones the relayer notified. `handle_withdrawal` signs the
registry's address for the token (`get_token_for_chain`), and `authorize_withdrawal` stores
the signature but drops the address it was given.

**Served against signed** (`served_record_of_authorized`): for every withdrawal that
`handle_withdrawal` authorizes, the endpoint serves exactly one record with its id: the
notified row, with the signature over the registry's address. So the signature covers the
served record's own fields only when the registry's address is the notified string, byte for
byte; an address notified in other letter case resolves all the same
(`served_signature_not_over_served_token`).

`deposit_status_handler` answers `/deposits/{id}/status` from `get_pending_deposits`, the
unprocessed rows only (`depositStatusHandler_true`): a processed deposit is answered 404, as an
unknown one is.

`check_liquidity_handler` answers `/liquidity/check` from the liquidity manager the loop
uses: whether the pool of the request's chain and token holds the amount, and its
`available` balance.

The notification bodies are read, and the list is written, by serde's derives over the
coordinator's own structs (`DepositNotification.fromJson`, `WithdrawalNotification.fromJson`,
`RpcServer.AuthorizedWithdrawal.toJson`); the relayer's side of each body is in
`Relayer/CoordinatorClient.lean`.
-/

namespace ZeroBridge

namespace RpcServer

/-- `rpc_server::AuthorizedWithdrawal`: a withdrawal as the coordinator serves it. -/
structure AuthorizedWithdrawal where
  withdrawalId : String
  targetChainId : Nat
  recipient : String
  token : String
  amount : Nat
  nullifier : Bytes
  authorizationSignature : Bytes
  deriving DecidableEq, Repr

end RpcServer

/-! ### The bodies, as serde reads and writes them -/

/-- `rpc_server::DepositNotification`, read by its derived `Deserialize`. -/
def DepositNotification.fromJson : Json → Except JsonError DepositNotification
  | .obj e => do
    let depositId ← Json.getField e "deposit_id" Json.toStr
    let sourceChainId ← Json.getField e "source_chain_id" Json.toU64
    let targetChainId ← Json.getField e "target_chain_id" Json.toU64
    let sender ← Json.getField e "sender" Json.toStr
    let token ← Json.getField e "token" Json.toStr
    let amount ← Json.getField e "amount" Json.toU64
    let recipient ← Json.getField e "recipient" Json.toBytes
    let zcashAddress ← Json.getField e "zcash_address" Json.toBytes
    let timestamp ← Json.getField e "timestamp" Json.toU64
    pure ⟨depositId, sourceChainId, targetChainId, sender, token, amount, recipient, zcashAddress,
      timestamp⟩
  | _ => .error (.invalidType "struct DepositNotification")

/-- `rpc_server::WithdrawalNotification`, read by its derived `Deserialize`. -/
def WithdrawalNotification.fromJson : Json → Except JsonError WithdrawalNotification
  | .obj e => do
    let withdrawalId ← Json.getField e "withdrawal_id" Json.toStr
    let targetChainId ← Json.getField e "target_chain_id" Json.toU64
    let recipient ← Json.getField e "recipient" Json.toStr
    let token ← Json.getField e "token" Json.toStr
    let amount ← Json.getField e "amount" Json.toU64
    let nullifier ← Json.getField e "nullifier" Json.toBytes
    let zcashProof ← Json.getField e "zcash_proof" Json.toBytes
    let merkleRoot ← Json.getField e "merkle_root" Json.toBytes
    pure ⟨withdrawalId, targetChainId, recipient, token, amount, nullifier, zcashProof, merkleRoot⟩
  | _ => .error (.invalidType "struct WithdrawalNotification")

/-- `rpc_server::AuthorizedWithdrawal`, written by its derived `Serialize`. -/
def RpcServer.AuthorizedWithdrawal.toJson (a : RpcServer.AuthorizedWithdrawal) : Json :=
  .obj [("withdrawal_id", .str a.withdrawalId), ("target_chain_id", .num a.targetChainId),
    ("recipient", .str a.recipient), ("token", .str a.token), ("amount", .num a.amount),
    ("nullifier", .ofBytes a.nullifier),
    ("authorization_signature", .ofBytes a.authorizationSignature)]

/-! ### The status of a deposit -/

/-- `rpc_server::DepositStatusResponse`. -/
structure DepositStatusResponse where
  depositId : String
  processed : Bool
  zcashTxid : Option String
  noteCommitment : Option String
  deriving DecidableEq, Repr

/-- `DepositStatusResponse`, written by its derived `Serialize`. -/
def DepositStatusResponse.toJson (r : DepositStatusResponse) : Json :=
  .obj [("deposit_id", .str r.depositId), ("processed", .bool r.processed),
    ("zcash_txid", .ofOption r.zcashTxid), ("note_commitment", .ofOption r.noteCommitment)]

/-- `deposit_status_handler`: the deposit with the id among `get_pending_deposits`, 404 when
there is none, 500 when the `SELECT` fails. -/
def depositStatusHandler (db : Database) (ok : Bool) (depositId : String) :
    Except Nat DepositStatusResponse :=
  if ok then
    match db.getPendingDeposits.find? (·.depositId = depositId) with
    | some d => .ok ⟨d.depositId, d.processed, d.zcashTxid, d.noteCommitment⟩
    | none => .error 404
  else .error 500

/-- What the endpoint answers when the `SELECT` succeeds: 404 for an unknown or processed
deposit, the record of an unprocessed one. -/
theorem depositStatusHandler_true (db : Database) (depositId : String) :
    depositStatusHandler db true depositId =
      match db.deposits.find? depositId with
      | some d => if d.processed then .error 404 else .ok ⟨depositId, false, d.zcashTxid, d.noteCommitment⟩
      | none => .error 404 := by
  rw [depositStatusHandler, if_pos rfl, Database.find?_getPendingDeposits]
  cases hd : db.deposits.find? depositId with
  | none => rfl
  | some d =>
    have hid : d.depositId = depositId := (Table.find?_eq_some_iff.mp hd).2
    cases hp : d.processed <;> simp [Option.filter, hp, hid]

/-! ### The liquidity check -/

/-- `rpc_server::LiquidityCheckRequest`. -/
structure LiquidityCheckRequest where
  chainId : Nat
  token : String
  amount : Nat
  deriving DecidableEq, Repr

/-- `LiquidityCheckRequest`, read by its derived `Deserialize`. -/
def LiquidityCheckRequest.fromJson : Json → Except JsonError LiquidityCheckRequest
  | .obj e => do
    let chainId ← Json.getField e "chain_id" Json.toU64
    let token ← Json.getField e "token" Json.toStr
    let amount ← Json.getField e "amount" Json.toU64
    pure ⟨chainId, token, amount⟩
  | _ => .error (.invalidType "struct LiquidityCheckRequest")

/-- `rpc_server::LiquidityCheckResponse`. -/
structure LiquidityCheckResponse where
  available : Bool
  currentLiquidity : Nat
  deriving DecidableEq, Repr

/-- `LiquidityCheckResponse`, written by its derived `Serialize`. -/
def LiquidityCheckResponse.toJson (r : LiquidityCheckResponse) : Json :=
  .obj [("available", .bool r.available), ("current_liquidity", .num r.currentLiquidity)]

/-- `check_liquidity_handler`: whether the pool of the chain and token has the amount
available, and how much it has; no pool reads as none available. A body serde refuses is
answered 422 by axum's `Json` extractor. -/
def checkLiquidityHandler (lm : LiquidityManager) (body : Json) :
    Except Nat LiquidityCheckResponse :=
  match LiquidityCheckRequest.fromJson body with
  | .error _ => .error 422
  | .ok r =>
    match lm.getPool r.chainId r.token with
    | some pool => .ok ⟨decide (r.amount ≤ pool.available), pool.available⟩
    | none => .ok ⟨false, 0⟩

/-! ### The authorized withdrawals -/

/-- The record `authorized_withdrawals_handler` serves for a row with signature `sig`. -/
def Withdrawal.toAuthorized (w : Withdrawal) (sig : Bytes) : RpcServer.AuthorizedWithdrawal :=
  ⟨w.withdrawalId, w.targetChainId, w.recipient, w.token, w.amount, w.nullifier, sig⟩

/-- `authorized_withdrawals_handler`: the authorized rows, oldest first, each with its
signature; a row without one is skipped. Status 500 when the `SELECT` fails. -/
def authorizedWithdrawalsHandler (db : Database) (ok : Bool) :
    Except Nat (List RpcServer.AuthorizedWithdrawal) :=
  if ok then .ok (db.getAuthorizedWithdrawals.filterMap fun w => w.authSignature.map w.toAuthorized)
  else .error 500

/-- What a successful answer holds: the authorized rows with a signature, each once. -/
theorem mem_authorizedWithdrawalsHandler {db : Database} {ok : Bool}
    {l : List RpcServer.AuthorizedWithdrawal} (hl : authorizedWithdrawalsHandler db ok = .ok l)
    {a : RpcServer.AuthorizedWithdrawal} :
    a ∈ l ↔ ∃ w sig, db.withdrawals.find? w.withdrawalId = some w ∧ w.authorized = true ∧
      w.authSignature = some sig ∧ a = w.toAuthorized sig := by
  unfold authorizedWithdrawalsHandler at hl
  split at hl
  · cases hl
    simp only [List.mem_filterMap, Database.mem_getAuthorizedWithdrawals, Option.map_eq_some']
    exact ⟨fun ⟨w, ⟨hw, ha⟩, sig, hs, he⟩ => ⟨w, sig, hw, ha, hs, he.symm⟩,
      fun ⟨w, sig, hw, ha, hs, he⟩ => ⟨w, ⟨hw, ha⟩, sig, hs, he.symm⟩⟩
  · cases hl

/-- The one record served for an authorized row with a signature. -/
theorem served_of_find? {db : Database} {ok : Bool} {l : List RpcServer.AuthorizedWithdrawal}
    (hl : authorizedWithdrawalsHandler db ok = .ok l) {w : Withdrawal} {sig : Bytes}
    (hw : db.withdrawals.find? w.withdrawalId = some w) (ha : w.authorized = true)
    (hs : w.authSignature = some sig) :
    w.toAuthorized sig ∈ l ∧ ∀ a ∈ l, a.withdrawalId = w.withdrawalId → a = w.toAuthorized sig := by
  refine ⟨(mem_authorizedWithdrawalsHandler hl).mpr ⟨w, sig, hw, ha, hs, rfl⟩, fun a ha' hid => ?_⟩
  obtain ⟨w', sig', hw', -, hs', rfl⟩ := (mem_authorizedWithdrawalsHandler hl).mp ha'
  have hid' : w'.withdrawalId = w.withdrawalId := hid
  rw [hid', hw] at hw'
  cases hw'
  rw [Option.some.inj (hs'.symm.trans hs)]

variable {σ : Type}

/-- **Served against signed.** For every withdrawal that `handle_withdrawal` authorizes (a
pending row, authorized after the call), every successful answer of
`/withdrawals/authorized` serves exactly one record with its id: the notified row (its
`token` is the notified string), with the signature over the address the registry resolves
that token to. -/
theorem served_record_of_authorized (sv : Services σ) (io : Io) (w : Withdrawal)
    (s : Coordinator σ) (hrow : s.db.withdrawals.find? w.withdrawalId = some w)
    (hpending : w.authorized = false)
    (hauth : ((handleWithdrawal sv io w s).1.db.withdrawals.find? w.withdrawalId).map
      Withdrawal.authorized = some true)
    (ok : Bool) (l : List RpcServer.AuthorizedWithdrawal)
    (hl : authorizedWithdrawalsHandler (handleWithdrawal sv io w s).1.db ok = .ok l) :
    ∃ ti : ChainToken, sv.registry.getTokenForChain w.targetChainId w.token = .ok ti ∧
      w.toAuthorized (generateWithdrawalSignature sv.digest w.withdrawalId w.recipient ti.address
        w.amount w.nullifier) ∈ l ∧
      ∀ a ∈ l, a.withdrawalId = w.withdrawalId →
        a = w.toAuthorized (generateWithdrawalSignature sv.digest w.withdrawalId w.recipient
          ti.address w.amount w.nullifier) := by
  have hunchanged : ∀ s' : Coordinator σ, s'.db = s.db →
      (s'.db.withdrawals.find? w.withdrawalId).map Withdrawal.authorized = some false :=
    fun s' hdb => by rw [hdb, hrow, Option.map_some', hpending]
  rcases handleWithdrawal_spec sv io w s with ⟨m, h⟩ | ⟨-, -, h⟩ | ⟨σ', -, -, ⟨m, h⟩ | ⟨ti, hti, -, h⟩⟩
  · rw [h, hunchanged s rfl] at hauth
    cases hauth
  · rw [h] at hauth
    simp at hauth
  · rw [h, hunchanged _ rfl] at hauth
    cases hauth
  · rw [h] at hl
    refine ⟨ti, hti, @served_of_find? _ _ _ hl (w.authorize _) _ ?_ rfl rfl⟩
    simp [hrow, Withdrawal.authorize]

/-- A withdrawal of USDC to Base whose notification writes the token address in lower case:
the registry resolves it to the checksummed address. -/
def WithdrawalNotification.usdcOnBase : WithdrawalNotification :=
  ⟨"w-usdc", 8453, "0x7e", "0x833589fcd6edb6e08f4c7c32d4f71b54bda02913", 5, [7], [1], [9]⟩

/-- The coordinator once the notification is stored, over the test file's registry. -/
def usdcNotified : Coordinator (List Bytes) :=
  run Services.testFileSpentList (Coordinator.init LiquidityManager.sample [])
    [.notifyWithdrawal .usdcOnBase 0 true]

/-- `handle_withdrawal` authorizes the stored row, and the endpoint serves it with the
signature over the checksummed address. -/
theorem served_record_of_authorized_usdc :
    usdcNotified.db.withdrawals.find? "w-usdc" = some (WithdrawalNotification.usdcOnBase.toWithdrawal 0) ∧
    ((handleWithdrawal Services.testFileSpentList .allOk (WithdrawalNotification.usdcOnBase.toWithdrawal 0)
      usdcNotified).1.db.withdrawals.find? "w-usdc").map Withdrawal.authorized = some true ∧
    ∃ ti : ChainToken, Services.testFileSpentList.registry.getTokenForChain 8453
        "0x833589fcd6edb6e08f4c7c32d4f71b54bda02913" = .ok ti ∧
      (WithdrawalNotification.usdcOnBase.toWithdrawal 0).toAuthorized
        (generateWithdrawalSignature HashInput.message "w-usdc" "0x7e" ti.address 5 [7]) ∈
        [(WithdrawalNotification.usdcOnBase.toWithdrawal 0).toAuthorized
          (generateWithdrawalSignature HashInput.message "w-usdc" "0x7e"
            "0x833589fCD6eDb6E08f4c7C32D4f71b54bdA02913" 5 [7])] := by
  have hrow : usdcNotified.db.withdrawals.find? "w-usdc" =
      some (WithdrawalNotification.usdcOnBase.toWithdrawal 0) := by decide
  have hauth : ((handleWithdrawal Services.testFileSpentList .allOk
      (WithdrawalNotification.usdcOnBase.toWithdrawal 0) usdcNotified).1.db.withdrawals.find?
        "w-usdc").map Withdrawal.authorized = some true := by decide
  obtain ⟨ti, hti, hmem, -⟩ := served_record_of_authorized Services.testFileSpentList .allOk
    (WithdrawalNotification.usdcOnBase.toWithdrawal 0) usdcNotified hrow rfl hauth true _ rfl
  exact ⟨hrow, hauth, ti, hti, hmem⟩

/-- The notification, then one pass of the loop, which authorizes it. -/
def usdcAuthorizeRun : List Event :=
  [.notifyWithdrawal .usdcOnBase 0 true, .tick .allOk, .tick .allOk, .tick .allOk]

/-- **The served signature is not over the served token.** In the test file's registry, with
the digest itself as the signature, the served record carries the lower-case address while
its signature covers the checksummed one, so it is not the signature of the record's own
fields. -/
theorem served_signature_not_over_served_token :
    authorizedWithdrawalsHandler (run Services.testFileSpentList
      (Coordinator.init LiquidityManager.sample []) usdcAuthorizeRun).db true =
      .ok [⟨"w-usdc", 8453, "0x7e", "0x833589fcd6edb6e08f4c7c32d4f71b54bda02913", 5, [7],
        generateWithdrawalSignature HashInput.message "w-usdc" "0x7e"
          "0x833589fCD6eDb6E08f4c7C32D4f71b54bdA02913" 5 [7]⟩] ∧
    generateWithdrawalSignature HashInput.message "w-usdc" "0x7e"
        "0x833589fCD6eDb6E08f4c7C32D4f71b54bdA02913" 5 [7] ≠
      generateWithdrawalSignature HashInput.message "w-usdc" "0x7e"
        "0x833589fcd6edb6e08f4c7c32d4f71b54bda02913" 5 [7] :=
  ⟨rfl, by decide⟩

end ZeroBridge
