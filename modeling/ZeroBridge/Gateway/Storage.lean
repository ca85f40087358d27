import Mathlib.Logic.Basic
import ZeroBridge.Encoding.Bytes

/-!
# Contract storage and checked arithmetic

The three destination gateways keep their state in key-value storage: NEAR's `LookupMap`,
CosmWasm's `Map`, and Solana's program accounts at derived addresses. Each is a function
`κ → Option α` here, where an absent key reads as `none`, written by `KVMap.insert`.

Their arithmetic is checked. `checkedAdd w` and `checkedSub` are Rust's `checked_add` and
`checked_sub` on `w`-bit unsigned integers; each gateway turns a `none` into its own
failure (a panic under `overflow-checks`, `Uint128`'s panicking operators, or Solana's
`ErrorCode::Overflow`). A failing call reverts, so each gateway's step keeps the old state
on any failure.
-/

namespace ZeroBridge

/-- A key-value store: an absent key reads as `none`. -/
abbrev KVMap (κ α : Type) := κ → Option α

namespace KVMap

variable {κ α : Type} [DecidableEq κ]

/-- Store `v` under `k`. -/
def insert (m : KVMap κ α) (k : κ) (v : α) : KVMap κ α :=
  fun k' => if k' = k then some v else m k'

@[simp]
theorem insert_apply (m : KVMap κ α) (k k' : κ) (v : α) :
    m.insert k v k' = if k' = k then some v else m k' := rfl

end KVMap

/-! ### One native token in custody

The NEAR and Osmosis gateways keep one invariant of the same shape over their locked
balances: the native token's balance plus the withdrawal total is the deposit total, and no
other token has a balance. A deposit and a withdrawal each keep it. -/

section Custody

variable {native : String} {m : KVMap String Nat} {deposits withdrawals : Nat}

/-- A deposit of `net` in the native token raises its balance and the deposit total alike. -/
theorem custody_of_deposit (hu : (m native).getD 0 + withdrawals = deposits)
    (ht : ∀ t, t ≠ native → (m t).getD 0 = 0) (net : Nat) :
    ((m.insert native ((m native).getD 0 + net)) native).getD 0 + withdrawals = deposits + net ∧
      ∀ t, t ≠ native → ((m.insert native ((m native).getD 0 + net)) t).getD 0 = 0 := by
  refine ⟨?_, fun t hne => ?_⟩
  · simp only [KVMap.insert_apply, if_true, Option.getD_some]
    omega
  · simpa [hne] using ht t hne

/-- A withdrawal of at most a token's balance moves it from the balance to the withdrawal
total; of any token but the native one, that is nothing. -/
theorem custody_of_withdrawal (hu : (m native).getD 0 + withdrawals = deposits)
    (ht : ∀ t, t ≠ native → (m t).getD 0 = 0) {token : String} {a : Nat}
    (ha : a ≤ (m token).getD 0) :
    ((m.insert token ((m token).getD 0 - a)) native).getD 0 + (withdrawals + a) = deposits ∧
      ∀ t, t ≠ native → ((m.insert token ((m token).getD 0 - a)) t).getD 0 = 0 := by
  by_cases htok : token = native
  · subst htok
    refine ⟨?_, fun t hne => ?_⟩
    · simp only [KVMap.insert_apply, if_true, Option.getD_some]
      omega
    · simpa [hne] using ht t hne
  · have h0 := ht token htok
    refine ⟨?_, fun t hne => ?_⟩
    · simp only [KVMap.insert_apply, Ne.symm htok, if_false]
      omega
    · by_cases htt : t = token
      · simp [htt, h0]
      · simpa [htt] using ht t hne

end Custody

/-- `checked_add` on `w`-bit unsigned integers. -/
def checkedAdd (w a b : Nat) : Option Nat :=
  if a + b < 2 ^ w then some (a + b) else none

/-- `checked_sub` on unsigned integers. -/
def checkedSub (a b : Nat) : Option Nat :=
  if b ≤ a then some (a - b) else none

@[simp]
theorem checkedAdd_eq_some {w a b c : Nat} : checkedAdd w a b = some c ↔ a + b < 2 ^ w ∧ a + b = c := by
  unfold checkedAdd
  split <;> simp_all

@[simp]
theorem checkedSub_eq_some {a b c : Nat} : checkedSub a b = some c ↔ b ≤ a ∧ a - b = c := by
  unfold checkedSub
  split <;> simp_all

/-- A computation that failed raised nothing else: `x >>= f` is `ok` only through an `ok`
of `x`. -/
@[simp]
theorem Except.bind_eq_ok {ε α β : Type} {x : Except ε α} {f : α → Except ε β} {b : β} :
    x >>= f = .ok b ↔ ∃ a, x = .ok a ∧ f a = .ok b := by
  cases x <;> simp [bind, Except.bind]

/-- A computation that checks out as `ok` returned some value. -/
theorem Except.exists_eq_ok_of_isOk {ε α : Type} {x : Except ε α} (h : x.isOk = true) :
    ∃ a, x = .ok a := by
  cases x with
  | error e => exact absurd h Bool.false_ne_true
  | ok a => exact ⟨a, rfl⟩

@[simp]
theorem Except.pure_eq_ok {ε α : Type} {a b : α} : (pure a : Except ε α) = .ok b ↔ a = b := by
  simp [pure, Except.pure]

end ZeroBridge
