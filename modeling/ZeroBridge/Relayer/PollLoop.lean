import Mathlib.Data.List.Basic
import ZeroBridge.Store.Table
import ZeroBridge.Encoding.Bytes

/-!
# The relayer's poll loop

`relayer/src/main.rs` and `relayer/src/p2p_network.rs`: on every tick, the relayer asks the
coordinator for the authorized withdrawals and, for each one that nobody has claimed,
claims it, checks the coordinator's signature, submits it to the destination chain through
`TransactionExecutor::execute_withdrawal`, and on success announces `EXECUTED`, which
removes the claim, and records the execution in `withdrawal_executions`. Peers' gossip
(`CLAIM:<id>`, `EXECUTED:<id>:<tx>`) reaches the claim map through
`handle_incoming_message`.

**The gossip codec** (`gossip_codec_round_trip`): a `CLAIM` message sets exactly the claim on
its id, for every id; an `EXECUTED` message removes exactly the claim on its id when neither
the id nor the hash holds a colon, and does nothing otherwise, for the rest of the message
then splits into more than two parts (`executed_with_colon_keeps_claim`).

The environment is explicit: what the coordinator lists on each poll, the clock, and what
each submission returns (`Attempt`) are inputs of the run, as are the peer messages. The
ghost field `submitted` records every call of `execute_withdrawal`.

The claim map is the only thing between a withdrawal and its next submission, and both a
success and a peer's `EXECUTED` empty it: as long as the coordinator keeps listing a
withdrawal, each poll after its execution submits it again
(`resubmits_finished_withdrawal`, `finished_withdrawal_resubmitted`). What does hold is that
the relayer submits only what the coordinator lists, with a signature, and never more often
than it is listed (`run_submitted_sublist`).
-/

namespace ZeroBridge

/-- `TaskClaim`. Only `expires_at` is read; `claimed_by` goes to a debug log. -/
structure TaskClaim where
  taskId : String
  claimedBy : String
  claimedAt : Int
  expiresAt : Int
  deriving DecidableEq, Repr

/-- How long a claim lasts: 5 minutes. -/
def claimTtl : Int := 300

/-- `P2PNetwork`: the relayer's address (`config.relayer_identity.address`) and its claim
map `task_claims`. -/
structure P2PNetwork where
  address : String
  taskClaims : Table String TaskClaim TaskClaim.taskId

/-- `split_on` yields one more part than the separators it meets. -/
theorem length_splitOnP {α : Type} (p : α → Bool) (xs : List α) :
    (xs.splitOnP p).length = xs.countP p + 1 := by
  induction xs with
  | nil => rfl
  | cons x xs ih => by_cases h : p x <;> simp [List.splitOnP_cons, h, ih, List.countP_cons]

namespace P2PNetwork

/-- `is_task_claimed`: there is a claim on the task that has not expired. -/
def isTaskClaimed (n : P2PNetwork) (taskId : String) (now : Int) : Bool :=
  match n.taskClaims.find? taskId with
  | some claim => decide (now < claim.expiresAt)
  | none => false

/-- A claim on `taskId` by `claimedBy`, for `claimTtl` seconds from `now`, replacing any
other claim on it. -/
def claim (n : P2PNetwork) (taskId claimedBy : String) (now : Int) : P2PNetwork :=
  { n with taskClaims := n.taskClaims.upsert ⟨taskId, claimedBy, now, now + claimTtl⟩ }

/-- `claims.remove(task_id)`. -/
def unclaim (n : P2PNetwork) (taskId : String) : P2PNetwork :=
  { n with taskClaims := n.taskClaims.erase taskId }

/-- `broadcast_task_claim`: a claim of our own. The gossip itself reaches no peer here. -/
def broadcastTaskClaim (n : P2PNetwork) (taskId : String) (now : Int) : P2PNetwork :=
  n.claim taskId n.address now

/-- `broadcast_withdrawal_execution`: the claim is removed. -/
def broadcastWithdrawalExecution (n : P2PNetwork) (withdrawalId _txHash : String) : P2PNetwork :=
  n.unclaim withdrawalId

/-- `handle_claim_message`: a peer's claim. -/
def handleClaimMessage (n : P2PNetwork) (taskId : String) (now : Int) : P2PNetwork :=
  n.claim taskId "peer" now

/-- `handle_execution_message`: a peer's execution removes the claim. -/
def handleExecutionMessage (n : P2PNetwork) (withdrawalId _txHash : String) : P2PNetwork :=
  n.unclaim withdrawalId

/-- `cleanup_expired_claims`: keeps the claims that have not expired at `now`. -/
def cleanupExpiredClaims (n : P2PNetwork) (now : Int) : P2PNetwork :=
  { n with taskClaims := n.taskClaims.retain fun claim => decide (now < claim.expiresAt) }

/-- `handle_incoming_message`: `CLAIM:<id>`, or `EXECUTED:<id>:<tx>` with exactly one colon
after the prefix; `DEPOSIT_NOTIFIED:` and anything else change nothing. The prefixes are
ASCII, so Rust's byte slices `[6..]` and `[9..]` drop as many characters. -/
def handleIncomingMessage (n : P2PNetwork) (message : String) (now : Int) : P2PNetwork :=
  if "CLAIM:".data.isPrefixOf message.data then n.handleClaimMessage ⟨message.data.drop 6⟩ now
  else if "EXECUTED:".data.isPrefixOf message.data then
    match (message.data.drop 9).splitOn ':' with
    | [withdrawalId, txHash] => n.handleExecutionMessage ⟨withdrawalId⟩ ⟨txHash⟩
    | _ => n
  else n

@[simp]
theorem isTaskClaimed_unclaim (n : P2PNetwork) (taskId : String) (now : Int) :
    (n.unclaim taskId).isTaskClaimed taskId now = false := by
  simp [isTaskClaimed, unclaim]

/-- A `CLAIM` message records a peer's claim on the rest of the message. -/
theorem handleIncomingMessage_claim (n : P2PNetwork) (taskId : String) (now : Int) :
    n.handleIncomingMessage ("CLAIM:" ++ taskId) now = n.claim taskId "peer" now := by
  have hdata : ("CLAIM:" ++ taskId).data = "CLAIM:".data ++ taskId.data := String.data_append _ _
  simp [handleIncomingMessage, hdata, List.isPrefixOf, handleClaimMessage]

/-- An `EXECUTED` message for a withdrawal id and a transaction hash without colons removes
the claim on the withdrawal. -/
theorem handleIncomingMessage_executed (n : P2PNetwork) {withdrawalId txHash : String}
    (hw : ':' ∉ withdrawalId.data) (ht : ':' ∉ txHash.data) (now : Int) :
    n.handleIncomingMessage ("EXECUTED:" ++ withdrawalId ++ ":" ++ txHash) now =
      n.unclaim withdrawalId := by
  have hdata : ("EXECUTED:" ++ withdrawalId ++ ":" ++ txHash).data =
      "EXECUTED:".data ++ (withdrawalId.data ++ ':' :: txHash.data) := by
    simp [String.data_append]
  have hsplit : (withdrawalId.data ++ ':' :: txHash.data).splitOn ':' =
      [withdrawalId.data, txHash.data] := by
    have hw' : ∀ c ∈ withdrawalId.data, ¬(c == ':') = true :=
      fun c hc h => hw (by rwa [beq_iff_eq.mp h] at hc)
    have ht' : ∀ c ∈ txHash.data, ¬(c == ':') = true :=
      fun c hc h => ht (by rwa [beq_iff_eq.mp h] at hc)
    rw [List.splitOn, List.splitOnP_first _ _ hw' ':' rfl, List.splitOnP_eq_single _ _ ht']
  simp only [handleIncomingMessage, hdata]
  simp [List.isPrefixOf, hsplit, handleExecutionMessage]

/-- An `EXECUTED` message whose withdrawal id or transaction hash holds a colon splits into
more than two parts, and changes nothing. -/
theorem handleIncomingMessage_executed_of_colon (n : P2PNetwork) {withdrawalId txHash : String}
    (hc : ':' ∈ withdrawalId.data ∨ ':' ∈ txHash.data) (now : Int) :
    n.handleIncomingMessage ("EXECUTED:" ++ withdrawalId ++ ":" ++ txHash) now = n := by
  have hdata : ("EXECUTED:" ++ withdrawalId ++ ":" ++ txHash).data =
      "EXECUTED:".data ++ (withdrawalId.data ++ ':' :: txHash.data) := by
    simp [String.data_append]
  have hpos : 0 < (withdrawalId.data ++ txHash.data).countP (· == ':') :=
    List.countP_pos_iff.mpr ⟨':', List.mem_append.mpr hc, beq_self_eq_true _⟩
  have hparts : ((withdrawalId.data ++ ':' :: txHash.data).splitOn ':').length ≠ 2 := by
    rw [List.countP_append] at hpos
    rw [List.splitOn, length_splitOnP, List.countP_append, List.countP_cons_of_pos _ _ (by rfl)]
    omega
  simp only [handleIncomingMessage, hdata, List.isPrefixOf, Char.reduceBEq, Bool.false_and,
    Bool.and_true, Bool.false_eq_true, if_false, if_true, List.cons_append, List.drop_succ_cons,
    List.drop_zero, List.nil_append]
  split
  · rename_i h
    exact absurd (by rw [h]; rfl) hparts
  · rfl

/-- **The gossip codec.** For every claim map, task id `t` and transaction hash `h`, whatever
their characters: handling the message `broadcast_task_claim` gossips for `t` records a peer's
claim on `t` and leaves every other entry as it was; handling the message
`broadcast_withdrawal_execution` gossips for `t` and `h` removes `t`'s claim and leaves every
other entry when neither holds a colon, and changes nothing when one does. -/
theorem gossip_codec_round_trip (n : P2PNetwork) (t h : String) (now : Int) (k : String) :
    (n.handleIncomingMessage ("CLAIM:" ++ t) now).taskClaims.find? k =
      (if k = t then some ⟨t, "peer", now, now + claimTtl⟩ else n.taskClaims.find? k) ∧
    (n.handleIncomingMessage ("EXECUTED:" ++ t ++ ":" ++ h) now).taskClaims.find? k =
      (if k = t ∧ ':' ∉ t.data ∧ ':' ∉ h.data then none else n.taskClaims.find? k) := by
  refine ⟨by simp [handleIncomingMessage_claim, claim, eq_comm], ?_⟩
  by_cases hc : ':' ∈ t.data ∨ ':' ∈ h.data
  · rw [handleIncomingMessage_executed_of_colon n hc, if_neg fun h' => by tauto]
  · rw [not_or] at hc
    simp [handleIncomingMessage_executed n hc.1 hc.2, unclaim, hc, eq_comm]

end P2PNetwork

/-- **A colon in the id keeps the claim.** A peer claims `w:1` and then announces its
execution: the claim is still there, and the task stays claimed. -/
theorem executed_with_colon_keeps_claim :
    (((P2PNetwork.mk "relayer" .empty).handleIncomingMessage ("CLAIM:" ++ "w:1") 0
      ).handleIncomingMessage ("EXECUTED:" ++ "w:1" ++ ":" ++ "0xt") 10).taskClaims.find? "w:1" =
      some ⟨"w:1", "peer", 0, 300⟩ := by
  decide

/-- `AuthorizedWithdrawal`, as the coordinator lists it. Its `timestamp` is never read. -/
structure AuthorizedWithdrawal where
  withdrawalId : String
  targetChainId : Nat
  recipient : String
  token : String
  amount : Nat
  nullifier : Bytes
  authorizationSignature : Bytes
  deriving DecidableEq, Repr

/-- A row of `withdrawal_executions`, keyed by `withdrawal_id`. -/
structure WithdrawalExecution where
  withdrawalId : String
  txHash : String
  chainId : Nat
  executedAt : Int
  gasUsed : Nat
  feeEarned : Nat
  deriving DecidableEq, Repr

/-- How a call of the relayer ends: with its value, with an `Err`, which the caller logs, or
in a panic, which ends the task that made the call. -/
inductive Outcome (α : Type)
  | ok (a : α)
  | err
  | panic
  deriving DecidableEq, Repr

/-- What the environment decides in one turn of the loop over the authorized list: the
clock, and what `TransactionExecutor::execute_withdrawal` returns (a transaction hash, or
`none` for an error). -/
structure Attempt where
  now : Int
  txHash : Option String
  deriving DecidableEq, Repr

/-- The relayer: its claim map, its `withdrawal_executions` table, and the ghost list of the
withdrawals it has submitted, oldest first. -/
structure Relayer where
  p2pNetwork : P2PNetwork
  withdrawalExecutions : Table String WithdrawalExecution WithdrawalExecution.withdrawalId
  submitted : List AuthorizedWithdrawal

namespace Relayer

/-- A relayer at startup: no claims, no executions. -/
def init (address : String) : Relayer := ⟨⟨address, .empty⟩, .empty, []⟩

/-- `verify_coordinator_signature`: only that the signature is not empty. -/
def verifyCoordinatorSignature (w : AuthorizedWithdrawal) : Bool :=
  !w.authorizationSignature.isEmpty

/-- `execute_authorized_withdrawal`: check the signature, submit, announce the execution
(removing the claim), and record it; the `INSERT` fails on a withdrawal id already
recorded. `chain_id`, `gas_used` and `fee_earned` are written as `0`. -/
def executeAuthorizedWithdrawal (r : Relayer) (w : AuthorizedWithdrawal) (a : Attempt) :
    Relayer × Except String String :=
  if !verifyCoordinatorSignature w then (r, .error "Invalid coordinator authorization signature")
  else
    let r := { r with submitted := r.submitted ++ [w] }
    match a.txHash with
    | none => (r, .error "transaction failed")
    | some txHash =>
      let r := { r with
        p2pNetwork := r.p2pNetwork.broadcastWithdrawalExecution w.withdrawalId txHash }
      match r.withdrawalExecutions.insert ⟨w.withdrawalId, txHash, 0, a.now, 0, 0⟩ with
      | none => (r, .error "UNIQUE constraint failed: withdrawal_executions.withdrawal_id")
      | some t => ({ r with withdrawalExecutions := t }, .ok txHash)

/-- One turn of the loop in `process_authorized_withdrawals`: skip a claimed withdrawal,
else claim it and execute it; an error is logged and the loop goes on. -/
def processAuthorizedWithdrawal (r : Relayer) (w : AuthorizedWithdrawal) (a : Attempt) :
    Relayer :=
  if r.p2pNetwork.isTaskClaimed w.withdrawalId a.now then r
  else
    (executeAuthorizedWithdrawal
      { r with p2pNetwork := r.p2pNetwork.broadcastTaskClaim w.withdrawalId a.now } w a).1

/-- `process_authorized_withdrawals`, over the list the coordinator returns (empty when the
query fails). -/
def processAuthorizedWithdrawals (r : Relayer) (authorized : List (AuthorizedWithdrawal × Attempt)) :
    Relayer :=
  authorized.foldl (fun r wa => r.processAuthorizedWithdrawal wa.1 wa.2) r

end Relayer

/-- What happens to a relayer: a poll of the main loop, or a peer's message. -/
inductive RelayerEvent
  | poll (authorized : List (AuthorizedWithdrawal × Attempt))
  | incoming (message : String) (now : Int)
  deriving DecidableEq, Repr

/-- The withdrawals an event lists. -/
def RelayerEvent.listed : RelayerEvent → List AuthorizedWithdrawal
  | .poll authorized => authorized.map Prod.fst
  | .incoming _ _ => []

namespace Relayer

/-- One event. -/
def step (r : Relayer) : RelayerEvent → Relayer
  | .poll authorized => r.processAuthorizedWithdrawals authorized
  | .incoming message now =>
    { r with p2pNetwork := r.p2pNetwork.handleIncomingMessage message now }

/-- The relayer after a sequence of events. -/
def run (r : Relayer) (evs : List RelayerEvent) : Relayer := evs.foldl step r

/-! ### What one turn does -/

/-- A turn submits the withdrawal once, when it is unclaimed and signed, and nothing
otherwise. -/
theorem processAuthorizedWithdrawal_submitted (r : Relayer) (w : AuthorizedWithdrawal)
    (a : Attempt) :
    (r.processAuthorizedWithdrawal w a).submitted =
      r.submitted ++ if !r.p2pNetwork.isTaskClaimed w.withdrawalId a.now &&
        verifyCoordinatorSignature w then [w] else [] := by
  unfold processAuthorizedWithdrawal executeAuthorizedWithdrawal
  cases r.p2pNetwork.isTaskClaimed w.withdrawalId a.now <;>
    cases verifyCoordinatorSignature w <;> simp
  split
  · rfl
  · split <;> rfl

/-- A turn on an unclaimed, signed withdrawal whose submission succeeds and which was not yet
recorded: it is submitted, recorded, and its claim is gone. -/
theorem processAuthorizedWithdrawal_executed {r : Relayer} {w : AuthorizedWithdrawal}
    {a : Attempt} {txHash : String} (hsig : verifyCoordinatorSignature w = true)
    (htx : a.txHash = some txHash) (hfree : r.p2pNetwork.isTaskClaimed w.withdrawalId a.now = false)
    (hnew : r.withdrawalExecutions.find? w.withdrawalId = none) :
    ∃ t, r.withdrawalExecutions.insert ⟨w.withdrawalId, txHash, 0, a.now, 0, 0⟩ = some t ∧
      r.processAuthorizedWithdrawal w a = ⟨(r.p2pNetwork.broadcastTaskClaim w.withdrawalId
        a.now).unclaim w.withdrawalId, t, r.submitted ++ [w]⟩ := by
  obtain ⟨t, ht⟩ : ∃ t, r.withdrawalExecutions.insert ⟨w.withdrawalId, txHash, 0, a.now, 0, 0⟩ =
      some t :=
    Option.ne_none_iff_exists'.mp fun h => by simpa [hnew] using Table.insert_eq_none_iff.mp h
  refine ⟨t, ht, ?_⟩
  simp only [processAuthorizedWithdrawal, hfree, executeAuthorizedWithdrawal, hsig, htx,
    Bool.not_true, Bool.false_eq_true, if_false]
  rw [ht]
  rfl

/-! ### Submissions follow listings -/

theorem processAuthorizedWithdrawals_submitted (r : Relayer)
    (authorized : List (AuthorizedWithdrawal × Attempt)) :
    ∃ l, (r.processAuthorizedWithdrawals authorized).submitted = r.submitted ++ l ∧
      l.Sublist ((authorized.map Prod.fst).filter verifyCoordinatorSignature) := by
  induction authorized generalizing r with
  | nil => exact ⟨[], by simp [processAuthorizedWithdrawals]⟩
  | cons wa authorized ih =>
    obtain ⟨l, hl, hsub⟩ := ih (r.processAuthorizedWithdrawal wa.1 wa.2)
    rw [processAuthorizedWithdrawal_submitted, List.append_assoc] at hl
    refine ⟨_, hl, ?_⟩
    simp only [List.map_cons, List.filter_cons]
    cases r.p2pNetwork.isTaskClaimed wa.1.withdrawalId wa.2.now <;>
      cases verifyCoordinatorSignature wa.1
    case false.true => exact hsub.cons_cons _
    case true.true => exact hsub.cons _
    all_goals simpa using hsub

theorem step_submitted (r : Relayer) (e : RelayerEvent) :
    ∃ l, (r.step e).submitted = r.submitted ++ l ∧
      l.Sublist (e.listed.filter verifyCoordinatorSignature) := by
  cases e with
  | poll authorized => exact processAuthorizedWithdrawals_submitted r authorized
  | incoming message now => exact ⟨[], by simp [step]⟩

/-- **Submissions follow listings.** Over every run from startup, the withdrawals the relayer
has submitted, in order, are a sublist of the signed withdrawals the coordinator has listed:
it submits nothing else, and nothing more often than it is listed. -/
theorem run_submitted_sublist (address : String) (evs : List RelayerEvent) :
    (run (init address) evs).submitted.Sublist
      ((evs.flatMap RelayerEvent.listed).filter verifyCoordinatorSignature) := by
  induction evs using List.reverseRecOn with
  | nil => simp [run, init]
  | append_singleton evs e ih =>
    obtain ⟨l, hl, hsub⟩ := step_submitted (run (init address) evs) e
    rw [run, List.foldl_append, List.foldl_cons, List.foldl_nil, ← run, hl, List.flatMap_append,
      List.filter_append]
    exact ih.append (by simpa using hsub)

/-! ### A finished withdrawal is submitted again -/

/-- **Finished withdrawals are resubmitted.** From any state, for a signed withdrawal: a poll
that executes it (unclaimed, the submission succeeds, and the id is new to
`withdrawal_executions`) records it, and the next poll that lists it submits it again,
whatever that poll's clock; and after a peer's `EXECUTED` message for it, the next poll that
lists it submits it, whatever the claim map held. -/
theorem resubmits_finished_withdrawal (r : Relayer) (w : AuthorizedWithdrawal)
    (hsig : verifyCoordinatorSignature w = true) :
    (∀ (a₁ a₂ : Attempt) (txHash : String), a₁.txHash = some txHash →
      r.p2pNetwork.isTaskClaimed w.withdrawalId a₁.now = false →
      r.withdrawalExecutions.find? w.withdrawalId = none →
      ((r.step (.poll [(w, a₁)])).withdrawalExecutions.find? w.withdrawalId =
          some ⟨w.withdrawalId, txHash, 0, a₁.now, 0, 0⟩ ∧
        ((r.step (.poll [(w, a₁)])).step (.poll [(w, a₂)])).submitted = r.submitted ++ [w, w])) ∧
    (∀ (txHash : String) (now : Int) (a : Attempt), ':' ∉ w.withdrawalId.data → ':' ∉ txHash.data →
      ((r.step (.incoming ("EXECUTED:" ++ w.withdrawalId ++ ":" ++ txHash) now)).step
        (.poll [(w, a)])).submitted = r.submitted ++ [w]) := by
  refine ⟨fun a₁ a₂ txHash htx hfree hnew => ?_, fun txHash now a hw ht => ?_⟩
  · obtain ⟨t, hins, hr₁⟩ := processAuthorizedWithdrawal_executed hsig htx hfree hnew
    simp only [step, processAuthorizedWithdrawals, List.foldl_cons, List.foldl_nil, hr₁]
    refine ⟨by simp [Table.find?_insert hins], ?_⟩
    simp [processAuthorizedWithdrawal_submitted, hsig]
  · simp [step, processAuthorizedWithdrawals, processAuthorizedWithdrawal_submitted,
      P2PNetwork.handleIncomingMessage_executed _ hw ht, hsig]

end Relayer

/-- A signed withdrawal `w1`, as the coordinator lists it on every poll. -/
def AuthorizedWithdrawal.sample : AuthorizedWithdrawal :=
  ⟨"w1", 1, "0x7e", "ETH", 5, [7], [9]⟩

/-- At startup, `w1` executed at time 0 is submitted again by a poll at time 5; and after a
peer's `EXECUTED:w1:0xpeer`, a poll submits it. -/
theorem resubmits_finished_withdrawal_sample :
    (((Relayer.init "relayer").step (.poll [(.sample, ⟨0, some "0xt1"⟩)])).step
        (.poll [(.sample, ⟨5, none⟩)])).submitted = [.sample, .sample] ∧
    (((Relayer.init "relayer").step (.incoming ("EXECUTED:" ++ "w1" ++ ":" ++ "0xpeer") 6)).step
        (.poll [(.sample, ⟨7, none⟩)])).submitted = [.sample] := by
  obtain ⟨hexec, hpeer⟩ := Relayer.resubmits_finished_withdrawal (.init "relayer") .sample rfl
  exact ⟨(hexec ⟨0, some "0xt1"⟩ ⟨5, none⟩ "0xt1" rfl rfl rfl).2,
    hpeer "0xpeer" 6 ⟨7, none⟩ (by decide) (by decide)⟩

/-- The coordinator lists `w1` on three polls. The first submission succeeds; the second
fails, so its claim stays; then a peer announces that it executed `w1`. -/
def resubmitRun : List RelayerEvent :=
  [.poll [(.sample, ⟨0, some "0xt1"⟩)], .poll [(.sample, ⟨5, none⟩)],
    .incoming "EXECUTED:w1:0xpeer" 6, .poll [(.sample, ⟨7, some "0xt3"⟩)]]

/-- **Submitted three times.** After the first poll `w1` is executed and recorded, yet the
relayer submits it on the second poll, and, once the peer's `EXECUTED` has removed the
second poll's claim, on the third. -/
theorem finished_withdrawal_resubmitted :
    (Relayer.run (.init "relayer") (resubmitRun.take 1)).withdrawalExecutions.find? "w1" =
      some ⟨"w1", "0xt1", 0, 0, 0, 0⟩ ∧
    (Relayer.run (.init "relayer") resubmitRun).submitted.map AuthorizedWithdrawal.withdrawalId =
      ["w1", "w1", "w1"] := by
  decide

end ZeroBridge
