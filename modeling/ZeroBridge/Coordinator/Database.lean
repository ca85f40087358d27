import Mathlib.Data.List.Sort
import ZeroBridge.Store.Table
import ZeroBridge.Encoding.Bytes

/-!
# The coordinator's store

`Database` (`database.rs`) is the coordinator's SQLite file. The model keeps the two tables
the engine and the RPC handlers write, `deposits` and `withdrawals`, each keyed by its id
column, and every statement that touches them:

* `store_deposit`, `store_withdrawal` are plain `INSERT`s: a second row with the same id
  violates the primary key and fails;
* `mark_deposit_processed` and `authorize_withdrawal` are keyed `UPDATE`s, which change
  nothing and still succeed when no row has the id;
* `mark_withdrawal_invalid` is a keyed `DELETE`, not an update of a status column;
* `get_pending_*` and `get_authorized_withdrawals` select on the flag and order by
  `created_at`; the `ORDER BY` is an insertion sort, which keeps rows with equal
  timestamps in table order.

Every write takes a `Bool`, the outcome the storage layer gives the statement: when it is
`false` the statement fails with `DbError.unavailable` and writes nothing. The integer
columns are bound `as i64` and read back `as u64`, which round-trips every `u64`, so they
are kept as `Nat`. The `nullifiers`, `shielded_notes` and `zcash_state` tables are not
modelled: no function of the engine, the handlers or the liquidity manager reads them, and
`Database::mark_nullifier_spent` and `Database::is_nullifier_spent` are never called.
-/

namespace ZeroBridge

/-- A `deposits` row (`database::Deposit`). -/
structure Deposit where
  depositId : String
  sourceChainId : Nat
  targetChainId : Nat
  sender : String
  recipient : Bytes
  token : String
  amount : Nat
  zcashAddress : Bytes
  processed : Bool
  zcashTxid : Option String
  noteCommitment : Option String
  createdAt : Int
  deriving DecidableEq, Repr

/-- A `withdrawals` row (`database::Withdrawal`). -/
structure Withdrawal where
  withdrawalId : String
  targetChainId : Nat
  recipient : String
  token : String
  amount : Nat
  nullifier : Bytes
  zcashProof : Bytes
  merkleRoot : Bytes
  authorized : Bool
  authSignature : Option Bytes
  createdAt : Int
  deriving DecidableEq, Repr

/-- The row `mark_deposit_processed` leaves in place of `d`. -/
def Deposit.markProcessed (noteCommitment zcashTxid : String) (d : Deposit) : Deposit :=
  { d with processed := true, noteCommitment := some noteCommitment, zcashTxid := some zcashTxid }

/-- The row `authorize_withdrawal` leaves in place of `w`. -/
def Withdrawal.authorize (authSignature : Bytes) (w : Withdrawal) : Withdrawal :=
  { w with authorized := true, authSignature := some authSignature }

/-- Why a statement fails. -/
inductive DbError
  /-- The `INSERT` hit a row with the same primary key. -/
  | uniqueViolation
  /-- The storage layer failed the statement. -/
  | unavailable
  deriving DecidableEq, Repr

/-- The `deposits` and `withdrawals` tables. -/
structure Database where
  deposits : Table String Deposit Deposit.depositId
  withdrawals : Table String Withdrawal Withdrawal.withdrawalId

namespace Database

/-- The store of a fresh coordinator. -/
def empty : Database := ⟨Table.empty, Table.empty⟩

/-- `store_deposit`. -/
def storeDeposit (db : Database) (ok : Bool) (d : Deposit) : Except DbError Database :=
  if ok then
    match db.deposits.insert d with
    | some t => .ok { db with deposits := t }
    | none => .error .uniqueViolation
  else .error .unavailable

/-- `get_pending_deposits`: the unprocessed deposits, oldest first. -/
def getPendingDeposits (db : Database) : List Deposit :=
  (db.deposits.rows.filter fun d => !d.processed).insertionSort fun a b => a.createdAt ≤ b.createdAt

/-- The store after `mark_deposit_processed` has run. -/
def withProcessed (db : Database) (depositId noteCommitment zcashTxid : String) : Database :=
  { db with deposits :=
    db.deposits.modify depositId (Deposit.markProcessed noteCommitment zcashTxid) fun _ => rfl }

/-- `mark_deposit_processed`. -/
def markDepositProcessed (db : Database) (ok : Bool) (depositId noteCommitment zcashTxid : String) :
    Except DbError Database :=
  if ok then .ok (db.withProcessed depositId noteCommitment zcashTxid) else .error .unavailable

/-- `store_withdrawal`. -/
def storeWithdrawal (db : Database) (ok : Bool) (w : Withdrawal) : Except DbError Database :=
  if ok then
    match db.withdrawals.insert w with
    | some t => .ok { db with withdrawals := t }
    | none => .error .uniqueViolation
  else .error .unavailable

/-- `get_pending_withdrawals`: the unauthorized withdrawals, oldest first. -/
def getPendingWithdrawals (db : Database) : List Withdrawal :=
  (db.withdrawals.rows.filter fun w => !w.authorized).insertionSort
    fun a b => a.createdAt ≤ b.createdAt

/-- `get_authorized_withdrawals`: the authorized withdrawals, oldest first. -/
def getAuthorizedWithdrawals (db : Database) : List Withdrawal :=
  (db.withdrawals.rows.filter fun w => w.authorized).insertionSort
    fun a b => a.createdAt ≤ b.createdAt

/-- The store after `authorize_withdrawal` has run. -/
def withAuthorized (db : Database) (withdrawalId : String) (authSignature : Bytes) : Database :=
  { db with withdrawals :=
    db.withdrawals.modify withdrawalId (Withdrawal.authorize authSignature) fun _ => rfl }

/-- `authorize_withdrawal`: the token address and amount arguments are unused. -/
def authorizeWithdrawal (db : Database) (ok : Bool) (withdrawalId : String)
    (_tokenAddress : String) (_amount : Nat) (authSignature : Bytes) : Except DbError Database :=
  if ok then .ok (db.withAuthorized withdrawalId authSignature) else .error .unavailable

/-- The store after `mark_withdrawal_invalid` has run: the row is gone. -/
def withoutWithdrawal (db : Database) (withdrawalId : String) : Database :=
  { db with withdrawals := db.withdrawals.erase withdrawalId }

/-- `mark_withdrawal_invalid`: deletes the row; the reason is unused. -/
def markWithdrawalInvalid (db : Database) (ok : Bool) (withdrawalId : String) (_reason : String) :
    Except DbError Database :=
  if ok then .ok (db.withoutWithdrawal withdrawalId) else .error .unavailable

/-! ### What each statement leaves in the tables -/

theorem storeDeposit_ok {db db' : Database} {ok : Bool} {d : Deposit}
    (h : db.storeDeposit ok d = .ok db') :
    ok = true ∧ db.deposits.insert d = some db'.deposits ∧ db'.withdrawals = db.withdrawals := by
  unfold storeDeposit at h
  split at h
  · split at h <;> cases h
    exact ⟨‹_›, ‹_›, rfl⟩
  · cases h

theorem storeDeposit_true_error {db : Database} {d : Deposit} {e : DbError}
    (h : db.storeDeposit true d = .error e) : (db.deposits.find? d.depositId).isSome := by
  rw [storeDeposit, if_pos rfl] at h
  split at h
  · cases h
  · exact Table.insert_eq_none_iff.mp ‹_›

theorem storeWithdrawal_ok {db db' : Database} {ok : Bool} {w : Withdrawal}
    (h : db.storeWithdrawal ok w = .ok db') :
    ok = true ∧ db.withdrawals.insert w = some db'.withdrawals ∧ db'.deposits = db.deposits := by
  unfold storeWithdrawal at h
  split at h
  · split at h <;> cases h
    exact ⟨‹_›, ‹_›, rfl⟩
  · cases h

theorem storeWithdrawal_true_error {db : Database} {w : Withdrawal} {e : DbError}
    (h : db.storeWithdrawal true w = .error e) : (db.withdrawals.find? w.withdrawalId).isSome := by
  rw [storeWithdrawal, if_pos rfl] at h
  split at h
  · cases h
  · exact Table.insert_eq_none_iff.mp ‹_›

theorem markWithdrawalInvalid_ok {db db' : Database} {ok : Bool} {id reason : String}
    (h : db.markWithdrawalInvalid ok id reason = .ok db') :
    ok = true ∧ db' = db.withoutWithdrawal id := by
  unfold markWithdrawalInvalid at h
  split at h <;> cases h
  exact ⟨‹_›, rfl⟩

theorem authorizeWithdrawal_ok {db db' : Database} {ok : Bool} {id token : String} {amount : Nat}
    {sig : Bytes} (h : db.authorizeWithdrawal ok id token amount sig = .ok db') :
    ok = true ∧ db' = db.withAuthorized id sig := by
  unfold authorizeWithdrawal at h
  split at h <;> cases h
  exact ⟨‹_›, rfl⟩

@[simp]
theorem withProcessed_deposits_find? (db : Database) (id nc tx k : String) :
    (db.withProcessed id nc tx).deposits.find? k =
      if id = k then (db.deposits.find? id).map (Deposit.markProcessed nc tx)
      else db.deposits.find? k := by
  simp [withProcessed]

@[simp]
theorem withProcessed_withdrawals (db : Database) (id nc tx : String) :
    (db.withProcessed id nc tx).withdrawals = db.withdrawals := rfl

@[simp]
theorem withAuthorized_withdrawals_find? (db : Database) (id : String) (sig : Bytes) (k : String) :
    (db.withAuthorized id sig).withdrawals.find? k =
      if id = k then (db.withdrawals.find? id).map (Withdrawal.authorize sig)
      else db.withdrawals.find? k := by
  simp [withAuthorized]

@[simp]
theorem withAuthorized_deposits (db : Database) (id : String) (sig : Bytes) :
    (db.withAuthorized id sig).deposits = db.deposits := rfl

@[simp]
theorem withoutWithdrawal_withdrawals_find? (db : Database) (id k : String) :
    (db.withoutWithdrawal id).withdrawals.find? k =
      if id = k then none else db.withdrawals.find? k := by
  simp [withoutWithdrawal]

@[simp]
theorem withoutWithdrawal_deposits (db : Database) (id : String) :
    (db.withoutWithdrawal id).deposits = db.deposits := rfl

theorem mem_getPendingDeposits {db : Database} {d : Deposit} :
    d ∈ db.getPendingDeposits ↔ db.deposits.find? d.depositId = some d ∧ d.processed = false := by
  simp [getPendingDeposits, (List.perm_insertionSort _ _).mem_iff, Table.find?_eq_some_iff]

/-- The pending deposit with an id: the stored one, when it is unprocessed. -/
theorem find?_getPendingDeposits (db : Database) (depositId : String) :
    db.getPendingDeposits.find? (fun d => d.depositId = depositId) =
      (db.deposits.find? depositId).filter fun d => !d.processed := by
  refine Option.ext fun x => ?_
  rw [Option.mem_def, Option.mem_def, Option.filter_eq_some]
  constructor
  · intro h
    obtain ⟨hx, hp⟩ := mem_getPendingDeposits.mp (List.mem_of_find?_eq_some h)
    have hid : x.depositId = depositId := by simpa using List.find?_some h
    exact ⟨hid ▸ hx, by simp [hp]⟩
  · rintro ⟨hx, hp⟩
    have hid : x.depositId = depositId := (Table.find?_eq_some_iff.mp hx).2
    have hmem : x ∈ db.getPendingDeposits := mem_getPendingDeposits.mpr ⟨hid ▸ hx, by simpa using hp⟩
    obtain ⟨y, hy⟩ : ∃ y, db.getPendingDeposits.find? (fun d => d.depositId = depositId) = some y :=
      Option.isSome_iff_exists.mp (List.find?_isSome.mpr ⟨x, hmem, by simpa using hid⟩)
    have hyid : y.depositId = depositId := by simpa using List.find?_some hy
    have hy' := (mem_getPendingDeposits.mp (List.mem_of_find?_eq_some hy)).1
    rw [hyid, hx] at hy'
    rw [hy, Option.some.inj hy']

theorem mem_getPendingWithdrawals {db : Database} {w : Withdrawal} :
    w ∈ db.getPendingWithdrawals ↔
      db.withdrawals.find? w.withdrawalId = some w ∧ w.authorized = false := by
  simp [getPendingWithdrawals, (List.perm_insertionSort _ _).mem_iff, Table.find?_eq_some_iff]

theorem mem_getAuthorizedWithdrawals {db : Database} {w : Withdrawal} :
    w ∈ db.getAuthorizedWithdrawals ↔
      db.withdrawals.find? w.withdrawalId = some w ∧ w.authorized = true := by
  simp [getAuthorizedWithdrawals, (List.perm_insertionSort _ _).mem_iff, Table.find?_eq_some_iff]

theorem nodup_getPendingDeposits (db : Database) :
    (db.getPendingDeposits.map Deposit.depositId).Nodup :=
  ((List.perm_insertionSort _ _).map _).nodup_iff.mpr
    (db.deposits.nodup_keys.sublist ((List.filter_sublist _).map _))

theorem nodup_getPendingWithdrawals (db : Database) :
    (db.getPendingWithdrawals.map Withdrawal.withdrawalId).Nodup :=
  ((List.perm_insertionSort _ _).map _).nodup_iff.mpr
    (db.withdrawals.nodup_keys.sublist ((List.filter_sublist _).map _))

end Database

end ZeroBridge
