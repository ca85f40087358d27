import ZeroBridge.Coordinator.StepSpec

/-!
# Pool accounting in the engine

`handle_deposit` locks the destination pool for the deposit's amount, and
`handle_withdrawal` releases the withdrawal's amount from it, but only after signing and
authorizing the withdrawal, and without checking the pool first: when less than the amount
is locked, `release_liquidity` returns `Ok` and changes nothing. So the engine authorizes
withdrawals whatever the pool holds (`overdraw_authorized`).

What does hold is the guard's own guarantee, the **lock accounting** `LocksCover`: for
every pool, the amount locked now plus everything the log records as released is at most
what was locked at startup plus everything the log records as locked
(`locks_cover_releases`). It holds in every run, whatever the writes and the capability
do: a failed pool write still leaves the in-memory change, and the addition that wraps at
`2 ^ 64` only lowers the balance.

**A restart restores the pools while the pool writes succeed** (`restart_restores_pools`):
each step leaves the pools alone or runs one lock or release with its tick's write outcome
(`step_liquidity`), so the manager's table stays in step with memory along every run whose
pool writes succeed (`run_inSync`), and `LiquidityManager::new` reloads the balances the
running coordinator holds.
-/

namespace ZeroBridge

/-- The amount the effect moves into `locked` of pool `key`. -/
def Effect.lockedInto (key : PoolKey) : Effect → Nat
  | .locked _ k a => if k = key then a else 0
  | _ => 0

/-- The amount the effect takes out of `locked` of pool `key`. -/
def Effect.releasedFrom (key : PoolKey) : Effect → Nat
  | .released _ k a => if k = key then a else 0
  | _ => 0

/-- The `locked` balance of pool `key`, zero when there is no such pool. -/
def LiquidityManager.lockedOf (lm : LiquidityManager) (key : PoolKey) : Nat :=
  ((lm.pools.find? key).map LiquidityPool.locked).getD 0

namespace LiquidityManager

/-- Writing a pool changes `locked` under its key only. -/
theorem lockedOf_writePool (lm : LiquidityManager) (ok : Bool) (p : LiquidityPool)
    (key : PoolKey) :
    (lm.writePool ok p).1.lockedOf key = if p.key = key then p.locked else lm.lockedOf key := by
  simp only [lockedOf, writePool_pools, Table.find?_upsert]
  split <;> rfl

/-- The `locked` balance of a pool that `get_pool` returns. -/
theorem lockedOf_of_getPool {lm : LiquidityManager} {c : Nat} {t : String} {p : LiquidityPool}
    (h : lm.getPool c t = some p) : lm.lockedOf (c, t) = p.locked := by
  rw [lockedOf, show lm.pools.find? (c, t) = some p from h]
  rfl

/-- `lock_liquidity` raises `locked` of its pool by at most the amount, and only when it
applies. -/
theorem lockedOf_lockLiquidity (lm : LiquidityManager) (ok : Bool) (c : Nat) (t : String)
    (a : Nat) (key : PoolKey) :
    (lm.lockLiquidity ok c t a).1.lockedOf key ≤
      lm.lockedOf key + if lm.lockApplies c t a ∧ (c, t) = key then a else 0 := by
  cases hap : lm.lockApplies c t a
  · simp [lockLiquidity_of_not_applies hap]
  · obtain ⟨p, hp, hl⟩ := lockLiquidity_of_applies ok hap
    have hpk := key_of_getPool hp
    rw [hl, lockedOf_writePool]
    by_cases hk : (c, t) = key
    · subst hk
      simp only [LiquidityPool.key] at hpk
      simp only [LiquidityPool.key, hpk, lockedOf_of_getPool hp, and_self, if_true]
      exact Nat.mod_le _ _
    · simp only [LiquidityPool.key] at hpk
      simp [LiquidityPool.key, hpk, hk]

/-- `release_liquidity` lowers `locked` of its pool by exactly the amount when it applies,
and changes nothing otherwise. -/
theorem lockedOf_releaseLiquidity (lm : LiquidityManager) (ok : Bool) (c : Nat) (t : String)
    (a : Nat) (key : PoolKey) :
    (lm.releaseLiquidity ok c t a).1.lockedOf key +
        (if lm.releaseApplies c t a ∧ (c, t) = key then a else 0) = lm.lockedOf key := by
  cases hap : lm.releaseApplies c t a
  · simp [releaseLiquidity_of_not_applies hap]
  · obtain ⟨p, hp, ha, hl⟩ := releaseLiquidity_of_applies ok hap
    have hpk := key_of_getPool hp
    rw [hl, lockedOf_writePool]
    by_cases hk : (c, t) = key
    · subst hk
      simp only [LiquidityPool.key] at hpk
      simp only [LiquidityPool.key, hpk, lockedOf_of_getPool hp, and_self, if_true]
      omega
    · simp only [LiquidityPool.key] at hpk
      simp [LiquidityPool.key, hpk, hk]

end LiquidityManager

@[simp]
theorem sum_lockedInto_released (key k : PoolKey) (id : String) (a : Nat) (b : Bool) :
    ((if b then [Effect.released id k a] else []).map (Effect.lockedInto key)).sum = 0 := by
  cases b <;> simp [Effect.lockedInto]

@[simp]
theorem sum_releasedFrom_locked (key k : PoolKey) (id : String) (a : Nat) (b : Bool) :
    ((if b then [Effect.locked id k a] else []).map (Effect.releasedFrom key)).sum = 0 := by
  cases b <;> simp [Effect.releasedFrom]

theorem sum_lockedInto_locked (key k : PoolKey) (id : String) (a : Nat) (b : Bool) :
    ((if b then [Effect.locked id k a] else []).map (Effect.lockedInto key)).sum =
      if b ∧ k = key then a else 0 := by
  cases b <;> simp [Effect.lockedInto]

theorem sum_releasedFrom_released (key k : PoolKey) (id : String) (a : Nat) (b : Bool) :
    ((if b then [Effect.released id k a] else []).map (Effect.releasedFrom key)).sum =
      if b ∧ k = key then a else 0 := by
  cases b <;> simp [Effect.releasedFrom]

variable {σ : Type} (sv : Services σ)

/-- **Lock accounting.** For every pool, what is locked now plus what the log records as
released is at most what was locked in `lm₀` plus what the log records as locked. -/
def LocksCover (lm₀ : LiquidityManager) (s : Coordinator σ) : Prop :=
  ∀ key, s.liquidity.lockedOf key + (s.log.map (Effect.releasedFrom key)).sum ≤
    lm₀.lockedOf key + (s.log.map (Effect.lockedInto key)).sum

theorem step_locksCover {lm₀ : LiquidityManager} {s : Coordinator σ} (h : LocksCover lm₀ s)
    (e : Event) : LocksCover lm₀ (step sv s e) := by
  cases e with
  | notifyDeposit n ok => exact h
  | notifyWithdrawal n now ok => exact h
  | tick io =>
    simp only [step]
    unfold tickStep
    split
    case h_3 d ds _ =>
      rcases handleDeposit_cases sv io d s with hd | ⟨ti, σ', nc, tx, -, -, -, hd⟩ <;>
        simp only [hd]
      · exact h
      intro key
      have hl := s.liquidity.lockedOf_lockLiquidity io.pool d.targetChainId ti.address d.amount key
      simp only [List.map_append, List.sum_append, List.map_cons, List.sum_cons,
        Effect.releasedFrom, Effect.lockedInto, sum_releasedFrom_locked, sum_lockedInto_locked]
      have := h key
      omega
    case h_5 w ws _ =>
      rcases handleWithdrawal_cases sv io w s with
        hd | ⟨-, -, hd⟩ | ⟨σ', -, -, hd | ⟨ti, -, -, hd⟩⟩ <;> simp only [hd]
      · exact h
      · exact h
      · exact h
      intro key
      have hr := s.liquidity.lockedOf_releaseLiquidity io.pool w.targetChainId ti.address
        w.amount key
      simp only [List.map_append, List.sum_append, sum_lockedInto_released,
        sum_releasedFrom_released]
      have := h key
      omega
    all_goals exact h

theorem run_locksCover (lm : LiquidityManager) (s₀ : σ) (evs : List Event) :
    LocksCover lm (run sv (Coordinator.init lm s₀) evs) := by
  induction evs using List.reverseRecOn with
  | nil => exact fun key => by simp [Coordinator.init]
  | append_singleton evs e ih =>
    rw [run_append_singleton]
    exact step_locksCover sv ih e

/-- **Releases never exceed locks.** In every run from a fresh start, whatever the writes
and the capability do, for every pool the `locked` balance plus the total the engine has
released from it is at most the balance locked at startup plus the total the engine has
locked into it; in particular the total released is at most that. -/
theorem locks_cover_releases (lm : LiquidityManager) (s₀ : σ) (evs : List Event)
    (key : PoolKey) :
    (run sv (Coordinator.init lm s₀) evs).liquidity.lockedOf key +
        ((run sv (Coordinator.init lm s₀) evs).log.map (Effect.releasedFrom key)).sum ≤
      lm.lockedOf key +
        ((run sv (Coordinator.init lm s₀) evs).log.map (Effect.lockedInto key)).sum :=
  run_locksCover sv lm s₀ evs key

/-! ### The `liquidity_pools` table across a restart -/

/-- A step leaves the pools as they were, or runs one `lock_liquidity` or
`release_liquidity` whose pool write has the outcome of its tick. -/
theorem step_liquidity (s : Coordinator σ) (e : Event) :
    (step sv s e).liquidity = s.liquidity ∨
      ∃ io op, e = .tick io ∧ (step sv s e).liquidity = s.liquidity.apply io.pool op := by
  cases e with
  | notifyDeposit n ok => exact .inl rfl
  | notifyWithdrawal n now ok => exact .inl rfl
  | tick io =>
    simp only [step]
    unfold tickStep
    split
    case h_3 d ds _ =>
      rcases handleDeposit_cases sv io d s with hd | ⟨ti, σ', nc, tx, -, -, -, hd⟩ <;> rw [hd]
      · exact .inl rfl
      · exact .inr ⟨io, .lock d.targetChainId ti.address d.amount, rfl, rfl⟩
    case h_5 w ws _ =>
      rcases handleWithdrawal_cases sv io w s with
        hd | ⟨-, -, hd⟩ | ⟨σ', -, -, hd | ⟨ti, -, -, hd⟩⟩ <;> rw [hd]
      · exact .inl rfl
      · exact .inl rfl
      · exact .inl rfl
      · exact .inr ⟨io, .release w.targetChainId ti.address w.amount, rfl, rfl⟩
    all_goals exact .inl rfl

/-- Along a run whose ticks' pool writes all succeed, the table stays in step with memory. -/
theorem run_inSync (s : Coordinator σ) (h : s.liquidity.InSync) (evs : List Event)
    (hpool : ∀ io, Event.tick io ∈ evs → io.pool = true) : (run sv s evs).liquidity.InSync := by
  induction evs generalizing s with
  | nil => exact h
  | cons e evs ih =>
    refine ih (step sv s e) ?_ fun io hio => hpool io (List.mem_cons_of_mem e hio)
    rcases step_liquidity sv s e with he | ⟨io, op, rfl, he⟩
    · rw [he]; exact h
    · rw [he, hpool io (List.mem_cons_self _ _)]; exact h.apply op

/-- **While every pool write succeeds, a restart restores the pools.** Started from any
`liquidity_pools` table (`LiquidityManager::new`): along every sequence of the liquidity
manager's operations whose writes all succeed, and along every run of the coordinator whose
ticks' pool writes all succeed, the table holds under every key exactly the row of the
in-memory pool, up to its `target`; so a manager restarted from that table holds a pool under
the same keys as the running one, with the same chain, token, available and locked
balances. -/
theorem restart_restores_pools :
    (∀ (persisted : Table PoolKey PoolRow PoolRow.key) (ops : List (Bool × LiquidityOp)),
      (∀ o ∈ ops, o.1 = true) → ∀ c t,
        ((LiquidityManager.new ((LiquidityManager.new persisted).runOps ops).persisted).getPool
            c t).map LiquidityManager.poolRow =
          (((LiquidityManager.new persisted).runOps ops).getPool c t).map
            LiquidityManager.poolRow) ∧
    ∀ (sv : Services σ) (persisted : Table PoolKey PoolRow PoolRow.key) (s₀ : σ)
      (evs : List Event), (∀ io, Event.tick io ∈ evs → io.pool = true) → ∀ c t,
        ((LiquidityManager.new (run sv (Coordinator.init (.new persisted) s₀) evs).liquidity.persisted
            ).getPool c t).map LiquidityManager.poolRow =
          ((run sv (Coordinator.init (.new persisted) s₀) evs).liquidity.getPool c t).map
            LiquidityManager.poolRow :=
  ⟨fun persisted _ hok c t => ((LiquidityManager.inSync_new persisted).runOps hok).getPool_new c t,
    fun sv persisted s₀ evs hpool c t =>
      (run_inSync sv (Coordinator.init (.new persisted) s₀) (LiquidityManager.inSync_new persisted)
        evs hpool).getPool_new c t⟩

/-- A withdrawal of 1000, with a proof the sample capability accepts, notified and handled
by one pass of the loop, with no deposit before it. -/
def overdrawRun : List Event :=
  [.notifyWithdrawal { WithdrawalNotification.sample with amount := 1000, zcashProof := [1] } 0
    true, .tick .allOk, .tick .allOk, .tick .allOk]

/-- **Authorization is not bounded by the pool.** With 50 locked in the pool and no deposit
processed, a withdrawal of 1000 is signed and authorized; `release_liquidity` then takes
the "less locked than released" branch, changes nothing and returns `Ok`. -/
theorem overdraw_authorized :
    ((run Services.sample (Coordinator.init LiquidityManager.sample ())
      overdrawRun).db.withdrawals.find? "w1").map (fun r => (r.amount, r.authorized)) =
        some (1000, true) ∧
    (run Services.sample (Coordinator.init LiquidityManager.sample ())
      overdrawRun).liquidity.lockedOf (1, "ETH") = 50 ∧
    (run Services.sample (Coordinator.init LiquidityManager.sample ()) overdrawRun).log = [] := by
  decide

end ZeroBridge
