import ZeroBridge.Relayer.PollLoop

/-!
# Task claims under any gossip order

The claim map of `P2PNetwork` (`p2p_network.rs`) is changed by five events: the relayer's
own `broadcast_task_claim` and `broadcast_withdrawal_execution`, a peer's `CLAIM:<id>` and
`EXECUTED:<id>:<tx>` reaching `handle_incoming_message`, and `cleanup_expired_claims`. Peer
messages may arrive in any order, twice or never, so the events form an arbitrary sequence
(`ClaimEvent`), each at its clock reading.

What the map should answer is read off the history alone (`claimedBySpec`): a task is
claimed at `now` exactly when the latest event that inserted or removed its claim inserted
it, at a time after `now - 300`; cleanups do not count. **Gossip semantics**
(`task_claims_follow_history`): from an empty map, over every sequence of events at clock
readings up to `now` whose `EXECUTED` ids and hashes have no `:`, `is_task_claimed` answers
exactly that, and the same as without the cleanups.

The proof carries one invariant, `ClaimsMatch`: for each task the map holds the expiry of
its latest insertion, unless a removal came after it, or a cleanup dropped it once it had
expired. One step lemma per event (`ClaimsMatch.step`) and an induction over the run give
it for every run.
-/

namespace ZeroBridge

/-- An event on the claim map, with the clock reading it happens at. -/
inductive ClaimEvent
  /-- `broadcast_task_claim(task_id)`. -/
  | broadcastTaskClaim (taskId : String) (now : Int)
  /-- `broadcast_withdrawal_execution(withdrawal_id, tx_hash)`. -/
  | broadcastWithdrawalExecution (withdrawalId txHash : String) (now : Int)
  /-- `handle_incoming_message("CLAIM:" + task_id)`. -/
  | peerClaim (taskId : String) (now : Int)
  /-- `handle_incoming_message("EXECUTED:" + withdrawal_id + ":" + tx_hash)`. -/
  | peerExecuted (withdrawalId txHash : String) (now : Int)
  /-- `cleanup_expired_claims()`. -/
  | cleanupExpiredClaims (now : Int)
  deriving DecidableEq, Repr

namespace ClaimEvent

/-- The clock reading of the event. -/
def now : ClaimEvent → Int
  | broadcastTaskClaim _ now | broadcastWithdrawalExecution _ _ now | peerClaim _ now
  | peerExecuted _ _ now | cleanupExpiredClaims now => now

/-- The id and the hash of an `EXECUTED` message have no `:`, as the gateways' hex and
base58 ids and transaction hashes have none; the other events ask nothing. -/
def ColonFree : ClaimEvent → Prop
  | peerExecuted withdrawalId txHash _ => ':' ∉ withdrawalId.data ∧ ':' ∉ txHash.data
  | _ => True

instance : DecidablePred ColonFree
  | peerExecuted withdrawalId txHash _ =>
    inferInstanceAs (Decidable (':' ∉ withdrawalId.data ∧ ':' ∉ txHash.data))
  | broadcastTaskClaim _ _ | broadcastWithdrawalExecution _ _ _ | peerClaim _ _
  | cleanupExpiredClaims _ => isTrue trivial

/-- Whether the event is a cleanup. -/
def isCleanup : ClaimEvent → Bool
  | cleanupExpiredClaims _ => true
  | _ => false

/-- What the event does to the relayer's claim map. -/
def apply (n : P2PNetwork) : ClaimEvent → P2PNetwork
  | broadcastTaskClaim taskId now => n.broadcastTaskClaim taskId now
  | broadcastWithdrawalExecution withdrawalId txHash _ =>
    n.broadcastWithdrawalExecution withdrawalId txHash
  | peerClaim taskId now => n.handleIncomingMessage ("CLAIM:" ++ taskId) now
  | peerExecuted withdrawalId txHash now =>
    n.handleIncomingMessage ("EXECUTED:" ++ withdrawalId ++ ":" ++ txHash) now
  | cleanupExpiredClaims now => n.cleanupExpiredClaims now

/-- Modelled from the spec: what the event says of the claim on `taskId`: inserted at a time
(`some (some τ)`), removed (`some none`), or nothing (`none`). Cleanups say nothing. -/
def onTask (taskId : String) : ClaimEvent → Option (Option Int)
  | broadcastTaskClaim t now | peerClaim t now => if t = taskId then some (some now) else none
  | broadcastWithdrawalExecution t _ _ | peerExecuted t _ _ =>
    if t = taskId then some none else none
  | cleanupExpiredClaims _ => none

theorem onTask_of_isCleanup {e : ClaimEvent} (h : e.isCleanup = true) (taskId : String) :
    e.onTask taskId = none := by
  cases e <;> first | rfl | cases h

end ClaimEvent

/-- Modelled from the spec: the time of the latest insertion of the claim on `taskId`, when
no removal came after it. -/
def latestClaim (taskId : String) (evs : List ClaimEvent) : Option Int :=
  evs.foldl (fun acc e => (e.onTask taskId).getD acc) none

/-- Modelled from the spec: whether `taskId` is claimed at `now`, from the history alone: the
latest event that inserted or removed its claim inserted it, after `now - 300`. -/
def claimedBySpec (taskId : String) (evs : List ClaimEvent) (now : Int) : Bool :=
  match latestClaim taskId evs with
  | some τ => decide (now - claimTtl < τ)
  | none => false

@[simp]
theorem latestClaim_append_singleton (taskId : String) (evs : List ClaimEvent) (e : ClaimEvent) :
    latestClaim taskId (evs ++ [e]) = (e.onTask taskId).getD (latestClaim taskId evs) := by
  simp [latestClaim, List.foldl_append]

/-- Cleanups leave the history's answer as it is. -/
theorem latestClaim_filter_not_isCleanup (taskId : String) (evs : List ClaimEvent) :
    latestClaim taskId (evs.filter fun e => !e.isCleanup) = latestClaim taskId evs := by
  induction evs using List.reverseRecOn with
  | nil => rfl
  | append_singleton evs e ih =>
    cases h : e.isCleanup
    · simp [List.filter_append, h, ih]
    · simp [List.filter_append, h, ih, ClaimEvent.onTask_of_isCleanup h]

namespace P2PNetwork

/-- The claim map after a sequence of events. -/
def runClaims (n : P2PNetwork) (evs : List ClaimEvent) : P2PNetwork := evs.foldl ClaimEvent.apply n

/-- When the claim on a task expires, if there is one. -/
def expiry (n : P2PNetwork) (taskId : String) : Option Int :=
  (n.taskClaims.find? taskId).map TaskClaim.expiresAt

theorem isTaskClaimed_eq (n : P2PNetwork) (taskId : String) (now : Int) :
    n.isTaskClaimed taskId now = ((n.expiry taskId).map fun e => decide (now < e)).getD false := by
  unfold isTaskClaimed expiry
  cases n.taskClaims.find? taskId <;> rfl

@[simp]
theorem expiry_claim (n : P2PNetwork) (t claimedBy : String) (now : Int) (taskId : String) :
    (n.claim t claimedBy now).expiry taskId =
      if t = taskId then some (now + claimTtl) else n.expiry taskId := by
  simp only [expiry, claim, Table.find?_upsert]
  split <;> rfl

@[simp]
theorem expiry_unclaim (n : P2PNetwork) (t taskId : String) :
    (n.unclaim t).expiry taskId = if t = taskId then none else n.expiry taskId := by
  simp only [expiry, unclaim, Table.find?_erase]
  split <;> rfl

@[simp]
theorem expiry_cleanupExpiredClaims (n : P2PNetwork) (now : Int) (taskId : String) :
    (n.cleanupExpiredClaims now).expiry taskId = (n.expiry taskId).filter fun e => decide (now < e) := by
  simp only [expiry, cleanupExpiredClaims, Table.find?_retain]
  cases n.taskClaims.find? taskId <;> simp [Option.filter]

end P2PNetwork

/-- Each event's effect on the expiry of a claim. -/
theorem ClaimEvent.expiry_apply (n : P2PNetwork) {e : ClaimEvent} (hc : e.ColonFree)
    (taskId : String) :
    (e.apply n).expiry taskId =
      match e.onTask taskId with
      | some (some τ) => some (τ + claimTtl)
      | some none => none
      | none => if e.isCleanup then (n.expiry taskId).filter fun x => decide (e.now < x)
        else n.expiry taskId := by
  cases e with
  | broadcastTaskClaim t now =>
    by_cases h : t = taskId <;> simp [apply, onTask, isCleanup, P2PNetwork.broadcastTaskClaim, h]
  | broadcastWithdrawalExecution t txHash now =>
    by_cases h : t = taskId <;>
      simp [apply, onTask, isCleanup, P2PNetwork.broadcastWithdrawalExecution, h]
  | peerClaim t now =>
    by_cases h : t = taskId <;>
      simp [apply, onTask, isCleanup, P2PNetwork.handleIncomingMessage_claim, h]
  | peerExecuted t txHash now =>
    rw [apply, P2PNetwork.handleIncomingMessage_executed n hc.1 hc.2]
    by_cases h : t = taskId <;> simp [onTask, isCleanup, h]
  | cleanupExpiredClaims now => simp [apply, onTask, isCleanup, ClaimEvent.now]

/-- **The map against the history.** For every task: with no live insertion in the history,
no claim; otherwise the expiry of the latest insertion, or no claim when that had expired by
`bound`. -/
def ClaimsMatch (n : P2PNetwork) (evs : List ClaimEvent) (bound : Int) : Prop :=
  ∀ taskId, match latestClaim taskId evs with
    | none => n.expiry taskId = none
    | some τ => n.expiry taskId = some (τ + claimTtl) ∨
        (n.expiry taskId = none ∧ τ + claimTtl ≤ bound)

/-- A cleanup at a clock reading up to `bound` keeps an expiry matched to its insertion:
the claim stays, or it goes having expired by `bound`. -/
theorem filter_expiry_matches {x : Option Int} {τ c bound : Int} (hc : c ≤ bound)
    (h : x = some (τ + claimTtl) ∨ (x = none ∧ τ + claimTtl ≤ bound)) :
    x.filter (fun e => decide (c < e)) = some (τ + claimTtl) ∨
      (x.filter (fun e => decide (c < e)) = none ∧ τ + claimTtl ≤ bound) := by
  rcases h with rfl | ⟨rfl, hτ⟩
  · by_cases hlt : c < τ + claimTtl
    · exact .inl (by simp [Option.filter, hlt])
    · exact .inr ⟨by simp [Option.filter, hlt], by omega⟩
  · exact .inr ⟨rfl, hτ⟩

/-- One event, at a clock reading up to `bound`, keeps the map matched to the history. -/
theorem ClaimsMatch.step {n : P2PNetwork} {evs : List ClaimEvent} {bound : Int}
    (h : ClaimsMatch n evs bound) {e : ClaimEvent} (hc : e.ColonFree) (hb : e.now ≤ bound) :
    ClaimsMatch (e.apply n) (evs ++ [e]) bound := by
  intro taskId
  have ht := h taskId
  rw [latestClaim_append_singleton, ClaimEvent.expiry_apply n hc]
  rcases e.onTask taskId with _ | _ | τ
  · cases hcl : e.isCleanup
    · simpa using ht
    · simp only [Option.getD_none, if_true]
      split at ht
      · simp [ht]
      · exact filter_expiry_matches hb ht
  · rfl
  · exact .inl rfl

/-- **The map against the history, over runs.** From an empty map, every run of events at
clock readings up to `bound` keeps the map matched to its history. -/
theorem claimsMatch_runClaims (address : String) (evs : List ClaimEvent)
    (hc : ∀ e ∈ evs, e.ColonFree) {bound : Int} (hb : ∀ e ∈ evs, e.now ≤ bound) :
    ClaimsMatch (P2PNetwork.runClaims ⟨address, .empty⟩ evs) evs bound := by
  induction evs using List.reverseRecOn with
  | nil => intro taskId; rfl
  | append_singleton evs e ih =>
    rw [P2PNetwork.runClaims, List.foldl_append, List.foldl_cons, List.foldl_nil,
      ← P2PNetwork.runClaims]
    exact (ih (fun e' he' => hc e' (by simp [he'])) fun e' he' => hb e' (by simp [he'])).step
      (hc e (by simp)) (hb e (by simp))

/-- A map matched to its history answers `is_task_claimed` by the history, at every `now`
from `bound` on. -/
theorem ClaimsMatch.isTaskClaimed_eq {n : P2PNetwork} {evs : List ClaimEvent} {bound : Int}
    (h : ClaimsMatch n evs bound) (taskId : String) {now : Int} (hnow : bound ≤ now) :
    n.isTaskClaimed taskId now = claimedBySpec taskId evs now := by
  have ht := h taskId
  rw [P2PNetwork.isTaskClaimed_eq, claimedBySpec]
  split at ht
  · simp [ht, *]
  · rename_i τ hτ
    rw [hτ]
    rcases ht with ht | ⟨ht, hle⟩
    · simp only [ht, Option.map_some', Option.getD_some, claimTtl]
      exact decide_eq_decide.mpr (by omega)
    · simp only [ht, Option.map_none', Option.getD_none, claimTtl] at hle ⊢
      exact (decide_eq_false (by omega)).symm

/-- **Gossip semantics of the claim map.** From an empty map, over every sequence of claim
events (local claims and executions, peers' `CLAIM` and `EXECUTED` messages in any order,
duplicated or lost, and cleanups) at clock readings up to `now`, whose `EXECUTED` ids and
hashes have no `:`: `is_task_claimed(taskId)` at `now` is true exactly when the latest event
that inserted or removed the claim on `taskId` inserted it, at a time after `now - 300`; and
it answers the same when every cleanup is left out. -/
theorem task_claims_follow_history (address : String) (evs : List ClaimEvent) (now : Int)
    (hc : ∀ e ∈ evs, e.ColonFree) (hnow : ∀ e ∈ evs, e.now ≤ now) (taskId : String) :
    (P2PNetwork.runClaims ⟨address, .empty⟩ evs).isTaskClaimed taskId now =
        claimedBySpec taskId evs now ∧
    (P2PNetwork.runClaims ⟨address, .empty⟩ (evs.filter fun e => !e.isCleanup)).isTaskClaimed
        taskId now =
      (P2PNetwork.runClaims ⟨address, .empty⟩ evs).isTaskClaimed taskId now := by
  have hrun := (claimsMatch_runClaims address evs hc hnow).isTaskClaimed_eq taskId le_rfl
  have hfilter := (claimsMatch_runClaims address (evs.filter fun e => !e.isCleanup)
    (fun e he => hc e (List.mem_of_mem_filter he)) fun e he => hnow e (List.mem_of_mem_filter he)
    ).isTaskClaimed_eq taskId le_rfl
  refine ⟨hrun, ?_⟩
  rw [hrun, hfilter, claimedBySpec, claimedBySpec, latestClaim_filter_not_isCleanup]

/-- Our claim on `w1` at 0, a peer's claim at 100, a cleanup at 350 that keeps it, and a
peer's execution of `w2`: at 380 the claim of 100 still holds. -/
theorem task_claims_follow_history_sample :
    (∀ e ∈ [ClaimEvent.broadcastTaskClaim "w1" 0, .peerClaim "w1" 100, .cleanupExpiredClaims 350,
      .peerExecuted "w2" "0xt" 360], e.ColonFree) ∧
    (∀ e ∈ [ClaimEvent.broadcastTaskClaim "w1" 0, .peerClaim "w1" 100, .cleanupExpiredClaims 350,
      .peerExecuted "w2" "0xt" 360], e.now ≤ 380) ∧
    (P2PNetwork.runClaims ⟨"relayer", .empty⟩ [.broadcastTaskClaim "w1" 0, .peerClaim "w1" 100,
      .cleanupExpiredClaims 350, .peerExecuted "w2" "0xt" 360]).isTaskClaimed "w1" 380 = true := by
  have h := task_claims_follow_history "relayer" [.broadcastTaskClaim "w1" 0, .peerClaim "w1" 100,
    .cleanupExpiredClaims 350, .peerExecuted "w2" "0xt" 360] 380 (by decide) (by decide) "w1"
  exact ⟨by decide, by decide, h.1.trans (by decide)⟩

end ZeroBridge
