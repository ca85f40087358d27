import ZeroBridge.Store.Table

/-!
# The liquidity manager

`LiquidityManager` (`liquidity_manager.rs`) keeps one pool per `(chain_id, token)` with an
`available` and a `locked` balance, in a `HashMap` it mutates in place, and persists every
mutation with `Database::update_liquidity_pool`, an `INSERT OR REPLACE` into the
`liquidity_pools` table. The model keeps both: `pools` is the in-memory map and
`persisted` the table, which only the liquidity manager reads or writes.

Each mutating operation first changes the in-memory pool and then writes the row; the
write can fail, and then the operation returns `Err` with the in-memory change already
made. That order is kept: `writePool` is the shared tail of `lock_liquidity`,
`release_liquidity`, `add_liquidity` and `remove_liquidity`, and takes the outcome of the
write as an argument. So the in-memory table and the `liquidity_pools` table are not kept in
step (`pool_mutation_not_atomic`): a failed write returns `Err` with the in-memory change
kept, a successful one stores `target = 0` whatever the pool's target, and a restart
(`LiquidityManager::new`, which runs `load_pools`) can load other balances than the ones the
manager held (`pool_write_not_atomic`).

Balances are `u64`. The source adds with `+=`, which wraps in a release build, so
`lock_liquidity` and `add_liquidity` add modulo `2 ^ 64`; subtractions are guarded and
never wrap. The `f64` arithmetic of `utilization`, `needs_rebalancing` and
`calculate_rebalance_amount` is not modelled: `trigger_rebalance` only ever returns `Ok`
on a known pool and changes nothing the model keeps (it stamps `last_rebalance`, which no
function reads), and `check_rebalancing_needed` takes the float test as a predicate.

**The table in step with memory** (`InSync`): under every key, the row of the in-memory
pool, up to `target`. `LiquidityManager::new` starts in step; every operation whose write
succeeds keeps it so (`InSync.apply`); and from a table in step, `load_pools` reloads the same
balances under the same keys (`InSync.getPool_new`).

**The `u64` bound** (`pool_bound_needs_fitting_adds`): `available + locked < 2 ^ 64`, the sum
`utilization` takes, is kept by every operation but `add_liquidity`, which keeps it without
wrapping exactly when the pool's total plus the amount fits, and checks nothing; so runs reach
pools outside it (`pool_total_overflows`).
-/

namespace ZeroBridge

/-- A pool's key, `(chain_id, token_address)`. -/
abbrev PoolKey := Nat × String

/-- A liquidity pool (`LiquidityPool`), without `last_rebalance`, which nothing reads. -/
structure LiquidityPool where
  chainId : Nat
  token : String
  available : Nat
  locked : Nat
  target : Nat
  deriving DecidableEq, Repr

/-- The key a pool is stored under. -/
def LiquidityPool.key (p : LiquidityPool) : PoolKey := (p.chainId, p.token)

/-- A row of the `liquidity_pools` table: `(chain_id, token, available, locked, target)`. -/
structure PoolRow where
  chainId : Nat
  token : String
  available : Nat
  locked : Nat
  target : Nat
  deriving DecidableEq, Repr

/-- The primary key of a `liquidity_pools` row. -/
def PoolRow.key (r : PoolRow) : PoolKey := (r.chainId, r.token)

/-- What the liquidity manager's operations fail with. -/
inductive LiquidityError
  /-- `"Pool not found"` -/
  | poolNotFound
  /-- `"Insufficient liquidity: need {amount}, have {available}"` -/
  | insufficientLiquidity (need available : Nat)
  /-- `"Insufficient available liquidity"` -/
  | insufficientAvailable
  /-- The error of a failed `update_liquidity_pool`. -/
  | database
  deriving DecidableEq, Repr

/-- The liquidity manager: the in-memory pools, and the `liquidity_pools` table. -/
structure LiquidityManager where
  pools : Table PoolKey LiquidityPool LiquidityPool.key
  persisted : Table PoolKey PoolRow PoolRow.key

namespace LiquidityManager

/-- `Database::update_liquidity_pool`: the row it writes, with `target` always `0`. -/
def poolRow (p : LiquidityPool) : PoolRow := ⟨p.chainId, p.token, p.available, p.locked, 0⟩

/-- The shared tail of the mutating operations: store `p` in memory, then write its row.
`ok` is the outcome of the write; when it fails, the in-memory change stays. -/
def writePool (lm : LiquidityManager) (ok : Bool) (p : LiquidityPool) :
    LiquidityManager × Except LiquidityError Unit :=
  let lm' := { lm with pools := lm.pools.upsert p }
  if ok then ({ lm' with persisted := lm.persisted.upsert (poolRow p) }, .ok ())
  else (lm', .error .database)

/-- `get_pool`. -/
def getPool (lm : LiquidityManager) (chainId : Nat) (token : String) : Option LiquidityPool :=
  lm.pools.find? (chainId, token)

/-- `ensure_liquidity`: succeeds when the pool exists with at least `amount` available. -/
def ensureLiquidity (lm : LiquidityManager) (chainId : Nat) (token : String) (amount : Nat) :
    Except LiquidityError Unit :=
  match lm.getPool chainId token with
  | none => .error .poolNotFound
  | some p => if p.available < amount then .error (.insufficientLiquidity amount p.available)
    else .ok ()

/-- `lock_liquidity`: moves `amount` from `available` to `locked`. -/
def lockLiquidity (lm : LiquidityManager) (ok : Bool) (chainId : Nat) (token : String)
    (amount : Nat) : LiquidityManager × Except LiquidityError Unit :=
  match lm.getPool chainId token with
  | none => (lm, .error .poolNotFound)
  | some p =>
    if p.available < amount then (lm, .error .insufficientAvailable)
    else lm.writePool ok
      { p with available := p.available - amount, locked := (p.locked + amount) % 2 ^ 64 }

/-- `release_liquidity`: lowers `locked` by `amount`; when less than `amount` is locked it
logs a warning and returns `Ok` with nothing changed. -/
def releaseLiquidity (lm : LiquidityManager) (ok : Bool) (chainId : Nat) (token : String)
    (amount : Nat) : LiquidityManager × Except LiquidityError Unit :=
  match lm.getPool chainId token with
  | none => (lm, .error .poolNotFound)
  | some p =>
    if p.locked < amount then (lm, .ok ())
    else lm.writePool ok { p with locked := p.locked - amount }

/-- `add_liquidity`: raises `available`, creating the pool at zero if it is missing. -/
def addLiquidity (lm : LiquidityManager) (ok : Bool) (chainId : Nat) (token : String)
    (amount : Nat) : LiquidityManager × Except LiquidityError Unit :=
  let p := (lm.getPool chainId token).getD ⟨chainId, token, 0, 0, 0⟩
  lm.writePool ok { p with available := (p.available + amount) % 2 ^ 64 }

/-- `remove_liquidity`: lowers `available` by `amount`. -/
def removeLiquidity (lm : LiquidityManager) (ok : Bool) (chainId : Nat) (token : String)
    (amount : Nat) : LiquidityManager × Except LiquidityError Unit :=
  match lm.getPool chainId token with
  | none => (lm, .error .poolNotFound)
  | some p =>
    if p.available < amount then (lm, .error .insufficientAvailable)
    else lm.writePool ok { p with available := p.available - amount }

/-- Whether `lock_liquidity` changes the pool: it exists with `amount` available. -/
def lockApplies (lm : LiquidityManager) (chainId : Nat) (token : String) (amount : Nat) : Bool :=
  match lm.getPool chainId token with
  | none => false
  | some p => decide (amount ≤ p.available)

/-- Whether `release_liquidity` changes the pool: it exists with `amount` locked. -/
def releaseApplies (lm : LiquidityManager) (chainId : Nat) (token : String) (amount : Nat) :
    Bool :=
  match lm.getPool chainId token with
  | none => false
  | some p => decide (amount ≤ p.locked)

/-- `trigger_rebalance`: on a known pool it computes a float amount, logs, and returns `Ok`;
nothing the model keeps changes. -/
def triggerRebalance (lm : LiquidityManager) (chainId : Nat) (token : String) :
    LiquidityManager × Except LiquidityError Unit :=
  match lm.getPool chainId token with
  | none => (lm, .error .poolNotFound)
  | some _ => (lm, .ok ())

/-- `check_rebalancing_needed`, with the float test `needs_rebalancing` as `needs`. -/
def checkRebalancingNeeded (lm : LiquidityManager) (needs : LiquidityPool → Bool) :
    List PoolKey :=
  (lm.pools.rows.filter needs).map LiquidityPool.key

/-- The pool a `liquidity_pools` row loads as. -/
def poolOfRow (r : PoolRow) : LiquidityPool := ⟨r.chainId, r.token, r.available, r.locked, r.target⟩

/-- `load_pools`: inserts a pool for every row of the table. -/
def loadPools (lm : LiquidityManager) : LiquidityManager :=
  { lm with pools := lm.persisted.rows.foldl (fun t r => t.upsert (poolOfRow r)) lm.pools }

/-- `LiquidityManager::new`: no pool in memory, then `load_pools`. -/
def new (persisted : Table PoolKey PoolRow PoolRow.key) : LiquidityManager :=
  loadPools ⟨Table.empty, persisted⟩

/-! ### What a successful operation does -/

@[simp]
theorem writePool_pools (lm : LiquidityManager) (ok : Bool) (p : LiquidityPool) :
    (lm.writePool ok p).1.pools = lm.pools.upsert p := by
  unfold writePool; split <;> rfl

@[simp]
theorem writePool_ok_iff (lm : LiquidityManager) (ok : Bool) (p : LiquidityPool) :
    (lm.writePool ok p).2 = .ok () ↔ ok = true := by
  unfold writePool; split <;> simp_all

/-- A pool that `get_pool` returns is stored under its own key. -/
theorem key_of_getPool {lm : LiquidityManager} {c : Nat} {t : String} {p : LiquidityPool}
    (h : lm.getPool c t = some p) : p.key = (c, t) :=
  (Table.find?_eq_some_iff.mp h).2

theorem writePool_eq (lm : LiquidityManager) (ok : Bool) (p : LiquidityPool) :
    lm.writePool ok p =
      (⟨lm.pools.upsert p, if ok then lm.persisted.upsert (poolRow p) else lm.persisted⟩,
        if ok then .ok () else .error .database) := by
  cases ok <;> rfl

/-- Each mutating operation either leaves the manager as it was, or runs `writePool` on a
pool under the key it was called with. -/
theorem eq_self_or_writePool
    {f : LiquidityManager → Bool → Nat → String → Nat → LiquidityManager × Except LiquidityError Unit}
    (hf : f = lockLiquidity ∨ f = releaseLiquidity ∨ f = addLiquidity ∨ f = removeLiquidity)
    (lm : LiquidityManager) (ok : Bool) (c : Nat) (t : String) (a : Nat) :
    (f lm ok c t a).1 = lm ∨ ∃ p : LiquidityPool, p.key = (c, t) ∧ f lm ok c t a = lm.writePool ok p := by
  rcases hf with rfl | rfl | rfl | rfl
  case inr.inr.inl =>
    refine .inr ⟨_, ?_, rfl⟩
    cases hp : lm.getPool c t
    · rfl
    · have hk := key_of_getPool hp
      exact hk
  all_goals
    simp only [lockLiquidity, releaseLiquidity, removeLiquidity]
    split
    · exact .inl rfl
    · rename_i p hp
      have hk := key_of_getPool hp
      split
      · exact .inl rfl
      · refine .inr ⟨_, ?_, rfl⟩
        exact hk

theorem lockApplies_of_ensureLiquidity {lm : LiquidityManager} {c : Nat} {t : String} {a : Nat}
    (h : lm.ensureLiquidity c t a = .ok ()) : lm.lockApplies c t a = true := by
  unfold ensureLiquidity at h
  unfold lockApplies
  split at h
  · cases h
  · split at h
    · cases h
    · simpa using Nat.le_of_not_lt ‹_›

theorem lockLiquidity_of_applies {lm : LiquidityManager} (ok : Bool) {c : Nat} {t : String}
    {a : Nat} (h : lm.lockApplies c t a = true) : ∃ p, lm.getPool c t = some p ∧
      lm.lockLiquidity ok c t a =
        lm.writePool ok { p with available := p.available - a, locked := (p.locked + a) % 2 ^ 64 } := by
  unfold lockApplies at h
  split at h
  · cases h
  · rename_i p hp
    exact ⟨p, hp, by simp [lockLiquidity, hp, Nat.not_lt.mpr (of_decide_eq_true h)]⟩

theorem lockLiquidity_ok_of_ensureLiquidity {lm : LiquidityManager} {c : Nat} {t : String}
    {a : Nat} (h : lm.ensureLiquidity c t a = .ok ()) : (lm.lockLiquidity true c t a).2 = .ok () := by
  obtain ⟨p, -, hl⟩ := lockLiquidity_of_applies true (lockApplies_of_ensureLiquidity h)
  simp [hl]

theorem lockLiquidity_of_not_applies {lm : LiquidityManager} {ok : Bool} {c : Nat} {t : String}
    {a : Nat} (h : lm.lockApplies c t a = false) : (lm.lockLiquidity ok c t a).1 = lm := by
  unfold lockApplies at h
  unfold lockLiquidity
  split
  · rfl
  · rename_i p hp
    rw [hp] at h
    rw [if_pos (by simpa using h)]

theorem releaseLiquidity_of_applies {lm : LiquidityManager} (ok : Bool) {c : Nat} {t : String}
    {a : Nat} (h : lm.releaseApplies c t a = true) : ∃ p, lm.getPool c t = some p ∧ a ≤ p.locked ∧
      lm.releaseLiquidity ok c t a = lm.writePool ok { p with locked := p.locked - a } := by
  unfold releaseApplies at h
  split at h
  · cases h
  · rename_i p hp
    have ha := of_decide_eq_true h
    exact ⟨p, hp, ha, by simp [releaseLiquidity, hp, Nat.not_lt.mpr ha]⟩

theorem releaseLiquidity_of_not_applies {lm : LiquidityManager} {ok : Bool} {c : Nat} {t : String}
    {a : Nat} (h : lm.releaseApplies c t a = false) : (lm.releaseLiquidity ok c t a).1 = lm := by
  unfold releaseApplies at h
  unfold releaseLiquidity
  split
  · rfl
  · rename_i p hp
    rw [hp] at h
    rw [if_pos (by simpa using h)]

/-- **Balances under successful operations.** For one pool `(c, t)`, when the operation
returns `Ok` and its `u64` addition fits: `lock_liquidity` moves `a` from `available` to
`locked`; `release_liquidity` lowers `locked` by `a` without raising `available`, or changes
nothing when less than `a` is locked; `add_liquidity` raises `available` by `a`, from a fresh
zero pool if there was none; `remove_liquidity` lowers `available` by `a`; and
`trigger_rebalance` leaves every pool's `available` and `locked` as they were. Every other pool
is left as it was, since the table changes by one `upsert`. -/
theorem ok_effects (lm lm' : LiquidityManager) (ok : Bool) (c : Nat) (t : String) (a : Nat) :
    (lm.lockLiquidity ok c t a = (lm', .ok ()) → ∃ p, lm.getPool c t = some p ∧ a ≤ p.available ∧
      (p.locked + a < 2 ^ 64 → lm'.pools = lm.pools.upsert
        { p with available := p.available - a, locked := p.locked + a })) ∧
    (lm.releaseLiquidity ok c t a = (lm', .ok ()) → ∃ p, lm.getPool c t = some p ∧
      lm'.pools = if a ≤ p.locked then lm.pools.upsert { p with locked := p.locked - a }
        else lm.pools) ∧
    (lm.addLiquidity ok c t a = (lm', .ok ()) →
      ((lm.getPool c t).getD ⟨c, t, 0, 0, 0⟩).available + a < 2 ^ 64 →
      lm'.pools = lm.pools.upsert { (lm.getPool c t).getD ⟨c, t, 0, 0, 0⟩ with
        available := ((lm.getPool c t).getD ⟨c, t, 0, 0, 0⟩).available + a }) ∧
    (lm.removeLiquidity ok c t a = (lm', .ok ()) → ∃ p, lm.getPool c t = some p ∧
      a ≤ p.available ∧ lm'.pools = lm.pools.upsert { p with available := p.available - a }) ∧
    (lm.triggerRebalance c t = (lm', .ok ()) → ∀ c' t',
      (lm'.getPool c' t').map (fun p => (p.available, p.locked)) =
        (lm.getPool c' t').map (fun p => (p.available, p.locked))) := by
  refine ⟨fun h => ?lock, fun h => ?release, fun h hfit => ?add, fun h => ?remove,
    fun h => ?rebalance⟩
  case lock | remove =>
    simp only [lockLiquidity, removeLiquidity] at h
    split at h
    · cases h
    · rename_i p hp
      split at h
      · cases h
      · refine ⟨p, hp, by omega, ?_⟩
        first
          | rw [← writePool_pools, h]
          | exact fun hfit => by rw [← Nat.mod_eq_of_lt hfit, ← writePool_pools, h]
  case release =>
    unfold releaseLiquidity at h
    split at h
    · cases h
    · rename_i p hp
      refine ⟨p, hp, ?_⟩
      split at h
      · cases h; rw [if_neg (by omega)]
      · rw [if_pos (by omega), ← writePool_pools, h]
  case add =>
    rw [← Nat.mod_eq_of_lt hfit]
    simpa [addLiquidity] using (congrArg (fun r => r.1.pools) h).symm
  case rebalance =>
    unfold triggerRebalance at h
    split at h <;> cases h
    exact fun _ _ => rfl

/-- **Memory first, then the row.** Each of `lock_liquidity`, `release_liquidity`,
`add_liquidity` and `remove_liquidity`, on every manager and for every outcome of the write,
either changes nothing, or replaces the in-memory pool under its key by a new one `p`
whatever the write does; then the row of `p`, with `target = 0`, is written exactly when the
write succeeds, and a failed write returns `Err` with the in-memory change kept. -/
theorem pool_mutation_not_atomic
    (f : LiquidityManager → Bool → Nat → String → Nat → LiquidityManager × Except LiquidityError Unit)
    (hf : f = lockLiquidity ∨ f = releaseLiquidity ∨ f = addLiquidity ∨ f = removeLiquidity)
    (lm : LiquidityManager) (ok : Bool) (c : Nat) (t : String) (a : Nat) :
    (f lm ok c t a).1 = lm ∨
    ∃ p : LiquidityPool, p.key = (c, t) ∧ (f lm ok c t a).1.pools = lm.pools.upsert p ∧
      (f lm ok c t a).1.persisted = (if ok then lm.persisted.upsert (poolRow p) else lm.persisted) ∧
      (f lm ok c t a).2 = if ok then .ok () else .error .database := by
  rcases eq_self_or_writePool hf lm ok c t a with h | ⟨p, hk, h⟩
  · exact .inl h
  · rw [h, writePool_eq]
    exact .inr ⟨p, hk, rfl, rfl, rfl⟩

end LiquidityManager

/-! ### The `u64` bound -/

/-- A call of the liquidity manager's mutating operations, as the engine and an operator make
them. -/
inductive LiquidityOp
  | lock (chainId : Nat) (token : String) (amount : Nat)
  | release (chainId : Nat) (token : String) (amount : Nat)
  | add (chainId : Nat) (token : String) (amount : Nat)
  | remove (chainId : Nat) (token : String) (amount : Nat)
  | rebalance (chainId : Nat) (token : String)
  deriving DecidableEq, Repr

namespace LiquidityManager

/-- The manager after one call, whose pool write has the outcome `ok`. -/
def apply (lm : LiquidityManager) (ok : Bool) : LiquidityOp → LiquidityManager
  | .lock c t a => (lm.lockLiquidity ok c t a).1
  | .release c t a => (lm.releaseLiquidity ok c t a).1
  | .add c t a => (lm.addLiquidity ok c t a).1
  | .remove c t a => (lm.removeLiquidity ok c t a).1
  | .rebalance c t => (lm.triggerRebalance c t).1

/-- The manager after a sequence of calls. -/
def runOps (lm : LiquidityManager) (ops : List (Bool × LiquidityOp)) : LiquidityManager :=
  ops.foldl (fun lm o => lm.apply o.1 o.2) lm

/-- Every pool's `available + locked` fits a `u64`: the sum `utilization` and
`calculate_rebalance_amount` compute does not overflow. -/
def PoolsBounded (lm : LiquidityManager) : Prop :=
  ∀ k p, lm.pools.find? k = some p → p.available + p.locked < 2 ^ 64

/-- The pool `add_liquidity` starts from: the one under the key, or a zero pool. -/
def poolOrZero (lm : LiquidityManager) (chainId : Nat) (token : String) : LiquidityPool :=
  (lm.getPool chainId token).getD ⟨chainId, token, 0, 0, 0⟩

/-- Every call of a run that adds keeps its pool's `available + locked + amount` below
`2 ^ 64`, in the state it is made from. -/
def AddsFit : LiquidityManager → List (Bool × LiquidityOp) → Prop
  | _, [] => True
  | lm, (ok, op) :: ops =>
    (∀ c t a, op = .add c t a →
      (lm.poolOrZero c t).available + (lm.poolOrZero c t).locked + a < 2 ^ 64) ∧
    AddsFit (lm.apply ok op) ops

theorem find?_writePool_self (lm : LiquidityManager) (ok : Bool) (p : LiquidityPool) :
    (lm.writePool ok p).1.pools.find? p.key = some p := by
  simp

theorem addLiquidity_eq (lm : LiquidityManager) (ok : Bool) (c : Nat) (t : String) (a : Nat) :
    lm.addLiquidity ok c t a = lm.writePool ok
      { lm.poolOrZero c t with available := ((lm.poolOrZero c t).available + a) % 2 ^ 64 } :=
  rfl

theorem PoolsBounded.writePool {lm : LiquidityManager} (h : lm.PoolsBounded) {p : LiquidityPool}
    (hp : p.available + p.locked < 2 ^ 64) (ok : Bool) : (lm.writePool ok p).1.PoolsBounded := by
  intro k q hq
  rw [writePool_pools, Table.find?_upsert] at hq
  split at hq
  · cases hq; exact hp
  · exact h k q hq

/-- Every call but `add_liquidity` keeps the bound, whatever its write does. -/
theorem PoolsBounded.apply_of_not_add {lm : LiquidityManager} (h : lm.PoolsBounded) (ok : Bool)
    {op : LiquidityOp} (hop : ∀ c t a, op ≠ .add c t a) : (lm.apply ok op).PoolsBounded := by
  cases op with
  | lock c t a =>
    cases hap : lm.lockApplies c t a
    · rwa [LiquidityManager.apply, lockLiquidity_of_not_applies hap]
    · obtain ⟨p, hp, hl⟩ := lockLiquidity_of_applies ok hap
      have ha : a ≤ p.available := by simpa [lockApplies, hp] using hap
      have hb := h _ _ hp
      rw [LiquidityManager.apply, hl]
      refine h.writePool ?_ ok
      dsimp only
      rw [Nat.mod_eq_of_lt (by omega)]
      omega
  | release c t a =>
    cases hap : lm.releaseApplies c t a
    · rwa [LiquidityManager.apply, releaseLiquidity_of_not_applies hap]
    · obtain ⟨p, hp, ha, hl⟩ := releaseLiquidity_of_applies ok hap
      have hb := h _ _ hp
      rw [LiquidityManager.apply, hl]
      exact h.writePool (by dsimp only; omega) ok
  | add c t a => exact absurd rfl (hop c t a)
  | remove c t a =>
    rw [LiquidityManager.apply, removeLiquidity]
    split
    · exact h
    · rename_i p hp
      have hb := h _ _ hp
      split
      · exact h
      · exact h.writePool (by dsimp only; omega) ok
  | rebalance c t =>
    rw [LiquidityManager.apply, triggerRebalance]
    split <;> exact h

/-- `add_liquidity` keeps the bound without wrapping exactly when its pool's total and the
amount stay below `2 ^ 64`. -/
theorem addLiquidity_bounded_iff {lm : LiquidityManager} (h : lm.PoolsBounded) (ok : Bool)
    (c : Nat) (t : String) (a : Nat) :
    (lm.apply ok (.add c t a)).PoolsBounded ∧ (lm.poolOrZero c t).available + a < 2 ^ 64 ↔
      (lm.poolOrZero c t).available + (lm.poolOrZero c t).locked + a < 2 ^ 64 := by
  rw [LiquidityManager.apply, addLiquidity_eq]
  constructor
  · rintro ⟨hb, hna⟩
    have := hb _ _ (find?_writePool_self lm ok _)
    dsimp only at this
    rw [Nat.mod_eq_of_lt hna] at this
    omega
  · intro hs
    refine ⟨h.writePool ?_ ok, by omega⟩
    dsimp only
    rw [Nat.mod_eq_of_lt (by omega)]
    omega

theorem PoolsBounded.runOps {lm : LiquidityManager} (h : lm.PoolsBounded)
    {ops : List (Bool × LiquidityOp)} (hfit : AddsFit lm ops) : (lm.runOps ops).PoolsBounded := by
  induction ops generalizing lm with
  | nil => exact h
  | cons o ops ih =>
    obtain ⟨ok, op⟩ := o
    obtain ⟨hadd, hrest⟩ := hfit
    refine ih ?_ hrest
    cases op with
    | add c t a => exact ((addLiquidity_bounded_iff h ok c t a).mpr (hadd c t a rfl)).1
    | _ => exact h.apply_of_not_add ok (by simp)

/-- **The `u64` bound holds only while the additions fit.** For every manager whose pools all
keep `available + locked` below `2 ^ 64`: `lock_liquidity`, `release_liquidity`,
`remove_liquidity` and `trigger_rebalance` keep the bound whatever their writes do, and the
addition in `lock_liquidity` does not wrap; `add_liquidity`, which checks nothing, keeps it
without wrapping exactly when its pool's `available + locked` plus the amount stays below
`2 ^ 64`; and every run whose additions fit so keeps the bound. -/
theorem pool_bound_needs_fitting_adds :
    (∀ (lm : LiquidityManager) (ok : Bool) (op : LiquidityOp), lm.PoolsBounded →
      (∀ c t a, op ≠ .add c t a) → (lm.apply ok op).PoolsBounded) ∧
    (∀ (lm : LiquidityManager) (c : Nat) (t : String) (a : Nat) (p : LiquidityPool),
      lm.PoolsBounded → lm.getPool c t = some p → a ≤ p.available → p.locked + a < 2 ^ 64) ∧
    (∀ (lm : LiquidityManager) (ok : Bool) (c : Nat) (t : String) (a : Nat), lm.PoolsBounded →
      ((lm.apply ok (.add c t a)).PoolsBounded ∧ (lm.poolOrZero c t).available + a < 2 ^ 64 ↔
        (lm.poolOrZero c t).available + (lm.poolOrZero c t).locked + a < 2 ^ 64)) ∧
    ∀ (lm : LiquidityManager) (ops : List (Bool × LiquidityOp)), lm.PoolsBounded →
      lm.AddsFit ops → (lm.runOps ops).PoolsBounded :=
  ⟨fun _ ok _ h hop => h.apply_of_not_add ok hop,
    fun _ _ _ _ _ h hp ha => by have := h _ _ hp; omega,
    fun _ ok c t a h => addLiquidity_bounded_iff h ok c t a, fun _ _ h hfit => h.runOps hfit⟩

/-! ### The table a restart loads -/

/-- The pools `load_pools` leaves: under each key, the pool of the table's row. -/
theorem find?_new_pools (persisted : Table PoolKey PoolRow PoolRow.key) (k : PoolKey) :
    (new persisted).pools.find? k = (persisted.find? k).map poolOfRow := by
  rw [new, loadPools, Table.find?_foldl_upsert poolOfRow (fun _ => rfl) _ persisted.nodup_keys]
  exact Option.or_none

/-- The `liquidity_pools` table holds, under every key, the row of the in-memory pool, up to
the `target` that `update_liquidity_pool` does not write; and no row where memory has no
pool. -/
def InSync (lm : LiquidityManager) : Prop :=
  ∀ k, (lm.persisted.find? k).map (fun r => { r with target := 0 }) = (lm.pools.find? k).map poolRow

theorem inSync_new (persisted : Table PoolKey PoolRow PoolRow.key) : (new persisted).InSync :=
  fun k => by rw [find?_new_pools, Option.map_map]; rfl

theorem InSync.writePool {lm : LiquidityManager} (h : lm.InSync) (p : LiquidityPool) :
    (lm.writePool true p).1.InSync := fun k => by
  have hk : (poolRow p).key = p.key := rfl
  simp only [LiquidityManager.writePool, if_true, Table.find?_upsert, hk]
  split
  · rfl
  · exact h k

/-- An operation whose write succeeds keeps the table in step with memory. -/
theorem InSync.apply {lm : LiquidityManager} (h : lm.InSync) (op : LiquidityOp) :
    (lm.apply true op).InSync := by
  have hw : ∀ f, (f = lockLiquidity ∨ f = releaseLiquidity ∨ f = addLiquidity ∨
      f = removeLiquidity) → ∀ c t a, (f lm true c t a).1.InSync := fun f hf c t a => by
    rcases eq_self_or_writePool hf lm true c t a with h' | ⟨p, -, h'⟩
    · rw [h']; exact h
    · rw [h']; exact h.writePool p
  cases op with
  | lock c t a => exact hw _ (.inl rfl) c t a
  | release c t a => exact hw _ (.inr (.inl rfl)) c t a
  | add c t a => exact hw _ (.inr (.inr (.inl rfl))) c t a
  | remove c t a => exact hw _ (.inr (.inr (.inr rfl))) c t a
  | rebalance c t =>
    rw [LiquidityManager.apply, triggerRebalance]
    split <;> exact h

theorem InSync.runOps {lm : LiquidityManager} (h : lm.InSync) {ops : List (Bool × LiquidityOp)}
    (hok : ∀ o ∈ ops, o.1 = true) : (lm.runOps ops).InSync := by
  induction ops generalizing lm with
  | nil => exact h
  | cons o ops ih =>
    obtain ⟨ok, op⟩ := o
    obtain rfl : ok = true := hok _ (List.mem_cons_self _ _)
    exact ih (h.apply op) fun o ho => hok o (List.mem_cons_of_mem _ ho)

/-- A manager whose table is in step with memory restarts with the same balances. -/
theorem InSync.getPool_new {lm : LiquidityManager} (h : lm.InSync) (c : Nat) (t : String) :
    ((new lm.persisted).getPool c t).map poolRow = (lm.getPool c t).map poolRow := by
  rw [getPool, getPool, find?_new_pools, Option.map_map]
  exact h (c, t)

end LiquidityManager

/-- An operator adds `2 ^ 64 - 1` of ETH, the engine locks 1, and the operator adds 1 more. -/
def overflowRun : List (Bool × LiquidityOp) :=
  [(true, .add 1 "ETH" (2 ^ 64 - 1)), (true, .lock 1 "ETH" 1), (true, .add 1 "ETH" 1)]

/-- **The pool leaves the `u64` range.** From no pool at all, `overflowRun` leaves
`2 ^ 64 - 1` available and 1 locked, whose sum `utilization` cannot compute in a `u64`; and
adding 1 to `2 ^ 64 - 1` available wraps it to 0. -/
theorem pool_total_overflows :
    (LiquidityManager.runOps ⟨.empty, .empty⟩ overflowRun).getPool 1 "ETH" =
      some ⟨1, "ETH", 2 ^ 64 - 1, 1, 0⟩ ∧
    (LiquidityManager.runOps ⟨.empty, .empty⟩ [(true, .add 1 "ETH" (2 ^ 64 - 1)),
      (true, .add 1 "ETH" 1)]).getPool 1 "ETH" = some ⟨1, "ETH", 0, 0, 0⟩ := by
  decide

/-- A manager with one pool, `(1, "ETH")`, holding 100 available and 50 locked. -/
def LiquidityManager.sample : LiquidityManager :=
  ⟨Table.empty.upsert ⟨1, "ETH", 100, 50, 0⟩, Table.empty⟩

/-- A failing `lock_liquidity` write on the sample manager's pool: the call returns `Err`, and
the pool in memory has moved to 90 available and 60 locked. -/
theorem pool_mutation_not_atomic_sample :
    (LiquidityManager.lockLiquidity = LiquidityManager.lockLiquidity ∨
      LiquidityManager.lockLiquidity = LiquidityManager.releaseLiquidity ∨
      LiquidityManager.lockLiquidity = LiquidityManager.addLiquidity ∨
      LiquidityManager.lockLiquidity = LiquidityManager.removeLiquidity) ∧
    ((LiquidityManager.sample.lockLiquidity false 1 "ETH" 10).1 = LiquidityManager.sample ∨
      ∃ p : LiquidityPool, p.key = (1, "ETH") ∧
        (LiquidityManager.sample.lockLiquidity false 1 "ETH" 10).1.pools =
          LiquidityManager.sample.pools.upsert p ∧
        (LiquidityManager.sample.lockLiquidity false 1 "ETH" 10).1.persisted =
          (if false then LiquidityManager.sample.persisted.upsert (LiquidityManager.poolRow p)
            else LiquidityManager.sample.persisted) ∧
        (LiquidityManager.sample.lockLiquidity false 1 "ETH" 10).2 =
          if false then .ok () else .error .database) ∧
    (LiquidityManager.sample.lockLiquidity false 1 "ETH" 10).2 = .error .database ∧
    (LiquidityManager.sample.lockLiquidity false 1 "ETH" 10).1.getPool 1 "ETH" =
      some ⟨1, "ETH", 90, 60, 0⟩ :=
  ⟨.inl rfl, LiquidityManager.pool_mutation_not_atomic _ (.inl rfl) _ _ _ _ _, rfl, by decide⟩

/-- A manager restarted from a `liquidity_pools` table holding one row, `(1, "ETH")` with 100
available, 50 locked and a target of 500. -/
def LiquidityManager.restored : LiquidityManager :=
  .new (Table.empty.upsert ⟨1, "ETH", 100, 50, 500⟩)

/-- **A failed write is not rolled back, and a successful one loses the target.** Locking 10
with the write failing returns `Err`, but the pool in memory has moved to 90 available and
60 locked, while a restart would load 100 and 50 again; with the write succeeding, the row
holds `target = 0` against 500 in memory. -/
theorem pool_write_not_atomic :
    (LiquidityManager.restored.lockLiquidity false 1 "ETH" 10).2 = .error .database ∧
    (LiquidityManager.restored.lockLiquidity false 1 "ETH" 10).1.getPool 1 "ETH" =
      some ⟨1, "ETH", 90, 60, 500⟩ ∧
    (LiquidityManager.new (LiquidityManager.restored.lockLiquidity false 1 "ETH" 10).1.persisted
      ).getPool 1 "ETH" = some ⟨1, "ETH", 100, 50, 500⟩ ∧
    (LiquidityManager.restored.lockLiquidity true 1 "ETH" 10).1.persisted.find? (1, "ETH") =
      some ⟨1, "ETH", 90, 60, 0⟩ ∧
    (LiquidityManager.restored.lockLiquidity true 1 "ETH" 10).1.getPool 1 "ETH" =
      some ⟨1, "ETH", 90, 60, 500⟩ :=
  ⟨rfl, by decide, by decide, by decide, by decide⟩

/-- Releasing 20 of the 50 locked returns `Ok` and leaves `available + locked` at 130, not
150: the released amount leaves the pool instead of moving back to `available`. -/
theorem LiquidityManager.release_lowers_total :
    (LiquidityManager.sample.releaseLiquidity true 1 "ETH" 20).2 = .ok () ∧
    ((LiquidityManager.sample.releaseLiquidity true 1 "ETH" 20).1.getPool 1 "ETH").map
      (fun p => p.available + p.locked) = some 130 :=
  ⟨rfl, rfl⟩

end ZeroBridge
