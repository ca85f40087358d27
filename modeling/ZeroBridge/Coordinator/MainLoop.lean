import ZeroBridge.Coordinator.StepSpec

/-!
# The loop as the code runs it

`Coordinator::run` (`main.rs`) repeats one body: `process_deposits`, which takes the pending
deposits and handles each in turn, then `process_withdrawals`, which does the same for the
pending withdrawals. The rest of the body (`sync_zcash_state`, `rebalance_liquidity`,
`update_metrics`) changes nothing the model keeps. `processDeposits` and
`processWithdrawals` are the two functions as written: a snapshot, then one `for` loop
(`handleEach`) whose `Err`s are only logged, each handling with the store outcomes of its
own turn.

The engine's `step` cuts the same body at its `await`s, so that notifications can interleave
with it. **The cut is faithful** (`tick_pass_refines`): from an idle coordinator, when no
notification comes between them, the ticks of one pass (the deposit snapshot, one tick per
pending deposit, the withdrawal snapshot, one per pending withdrawal, and the return to
idle) leave exactly the state that `process_deposits` followed by `process_withdrawals`
leaves. The handlers neither read nor write the loop's position (`handleDeposit_phase`,
`handleWithdrawal_phase`), which is what lets one tick stand for one turn of a `for` loop.
-/

namespace ZeroBridge

variable {σ : Type} (sv : Services σ)

/-- The `for` loop of `process_deposits` and `process_withdrawals`: each row handled in
turn, the `i`-th with the store outcomes `ios[i]`; an `Err` is only logged. -/
def handleEach {α : Type} (handle : Io → α → Coordinator σ → Coordinator σ × Except String Unit)
    (rows : List α) (ios : List Io) (s : Coordinator σ) : Coordinator σ :=
  (rows.zip ios).foldl (fun s rio => (handle rio.2 rio.1 s).1) s

/-- `process_deposits`: the pending deposits, none when the snapshot `SELECT` fails. -/
def processDeposits (read : Bool) (ios : List Io) (s : Coordinator σ) : Coordinator σ :=
  handleEach (handleDeposit sv) (if read then s.db.getPendingDeposits else []) ios s

/-- `process_withdrawals`: the pending withdrawals, none when the snapshot `SELECT` fails. -/
def processWithdrawals (read : Bool) (ios : List Io) (s : Coordinator σ) : Coordinator σ :=
  handleEach (handleWithdrawal sv) (if read then s.db.getPendingWithdrawals else []) ios s

/-! ### The handlers do not see the loop's position -/

theorem handleDeposit_phase (io : Io) (d : Deposit) (s : Coordinator σ) (p : Phase) :
    handleDeposit sv io d { s with phase := p } =
      ({ (handleDeposit sv io d s).1 with phase := p }, (handleDeposit sv io d s).2) := by
  unfold handleDeposit
  dsimp only
  repeat' split
  all_goals rfl

theorem handleWithdrawal_phase (io : Io) (w : Withdrawal) (s : Coordinator σ) (p : Phase) :
    handleWithdrawal sv io w { s with phase := p } =
      ({ (handleWithdrawal sv io w s).1 with phase := p }, (handleWithdrawal sv io w s).2) := by
  unfold handleWithdrawal
  dsimp only
  repeat' split
  all_goals rfl

theorem phase_handleDeposit (io : Io) (d : Deposit) (s : Coordinator σ) :
    (handleDeposit sv io d s).1.phase = s.phase :=
  congrArg (fun r => r.1.phase) (handleDeposit_phase sv io d s s.phase)

theorem phase_handleWithdrawal (io : Io) (w : Withdrawal) (s : Coordinator σ) :
    (handleWithdrawal sv io w s).1.phase = s.phase :=
  congrArg (fun r => r.1.phase) (handleWithdrawal_phase sv io w s s.phase)

/-- Ticks through what is left of a snapshot: one tick handles one row, so as many ticks as
rows run the `for` loop to its end. -/
theorem run_ticks_handleEach {α : Type} (mk : List α → Phase)
    (handle : Io → α → Coordinator σ → Coordinator σ × Except String Unit)
    (hstep : ∀ io a as (s : Coordinator σ),
      tickStep sv io { s with phase := mk (a :: as) } = { (handle io a s).1 with phase := mk as })
    (rows : List α) (ios : List Io) (s : Coordinator σ) (h : ios.length = rows.length) :
    run sv { s with phase := mk rows } (ios.map .tick) =
      { handleEach handle rows ios s with phase := mk [] } := by
  induction rows generalizing ios s with
  | nil => rw [List.eq_nil_of_length_eq_zero h]; rfl
  | cons a as ih =>
    obtain ⟨io, ios, rfl⟩ := List.exists_cons_of_length_eq_add_one h
    exact (congrArg (run sv · _) (hstep io a as s)).trans (ih ios _ (Nat.succ.inj h))

theorem handleEach_phase {α : Type}
    {handle : Io → α → Coordinator σ → Coordinator σ × Except String Unit}
    (hphase : ∀ io a (s : Coordinator σ), (handle io a s).1.phase = s.phase)
    (rows : List α) (ios : List Io) (s : Coordinator σ) :
    (handleEach handle rows ios s).phase = s.phase := by
  induction rows generalizing ios s with
  | nil => rfl
  | cons a as ih =>
    cases ios with
    | nil => rfl
    | cons io ios => exact (ih ios _).trans (hphase io a s)

theorem processDeposits_withdrawals (read : Bool) (ios : List Io) (s : Coordinator σ) :
    (processDeposits sv read ios s).db.withdrawals = s.db.withdrawals := by
  unfold processDeposits handleEach
  generalize (if read then s.db.getPendingDeposits else []).zip ios = l
  induction l generalizing s with
  | nil => rfl
  | cons dio l ih => exact (ih _).trans (handleDeposit_withdrawals sv dio.2 dio.1 s)

/-- **One pass of ticks is one pass of the loop body.** From an idle coordinator, the ticks
of a pass with no notification between them (the deposit snapshot, one tick per pending
deposit, the withdrawal snapshot, one tick per pending withdrawal, the return to idle) leave
the state that `process_deposits` and then `process_withdrawals` leave, each handling with
the store outcomes of its tick. -/
theorem tick_pass_refines (s : Coordinator σ) (hs : s.phase = .idle) (i₁ i₂ i₃ : Io)
    (dIos wIos : List Io)
    (hd : dIos.length = (if i₁.read then s.db.getPendingDeposits else []).length)
    (hw : wIos.length = (if i₂.read then s.db.getPendingWithdrawals else []).length) :
    run sv s (.tick i₁ :: dIos.map .tick ++ .tick i₂ :: wIos.map .tick ++ [.tick i₃]) =
      processWithdrawals sv i₂.read wIos (processDeposits sv i₁.read dIos s) := by
  have hdep : List.foldl (step sv)
      { s with phase := .deposits (if i₁.read then s.db.getPendingDeposits else []) }
      (dIos.map .tick) = { processDeposits sv i₁.read dIos s with phase := .deposits [] } :=
    run_ticks_handleEach sv Phase.deposits (handleDeposit sv)
      (fun io d ds s => by simp only [tickStep, handleDeposit_phase]) _ dIos s hd
  have hwd : (processDeposits sv i₁.read dIos s).db.getPendingWithdrawals =
      s.db.getPendingWithdrawals := by
    simp only [Database.getPendingWithdrawals, processDeposits_withdrawals]
  have hwit : List.foldl (step sv)
      { processDeposits sv i₁.read dIos s with
        phase := .withdrawals (if i₂.read then
          (processDeposits sv i₁.read dIos s).db.getPendingWithdrawals else []) }
      (wIos.map .tick) = { processWithdrawals sv i₂.read wIos (processDeposits sv i₁.read dIos s)
        with phase := .withdrawals [] } :=
    run_ticks_handleEach sv Phase.withdrawals (handleWithdrawal sv)
      (fun io w ws s => by simp only [tickStep, handleWithdrawal_phase]) _ wIos _
      (by rw [hwd]; exact hw)
  have hidle : (processWithdrawals sv i₂.read wIos (processDeposits sv i₁.read dIos s)).phase =
      .idle := by
    rw [processWithdrawals, handleEach_phase (phase_handleWithdrawal sv), processDeposits,
      handleEach_phase (phase_handleDeposit sv), hs]
  simp only [run, List.foldl_append, List.foldl_cons, List.foldl_nil, step]
  simp only [tickStep, hs]
  rw [hdep]
  simp only [tickStep]
  rw [hwit]
  simp only [tickStep]
  rw [← hidle]

/-- The sample deployment after a deposit and a withdrawal have been notified, before the
loop has run. -/
def Coordinator.notifiedSample : Coordinator Unit :=
  run Services.sample (Coordinator.init LiquidityManager.sample ())
    [.notifyDeposit .sample true, .notifyWithdrawal .sample 0 true]

/-- With one pending deposit and one pending withdrawal, a pass is five ticks. -/
theorem tick_pass_refines_sample :
    Coordinator.notifiedSample.phase = .idle ∧
    [Io.allOk].length =
      (if Io.allOk.read then Coordinator.notifiedSample.db.getPendingDeposits else []).length ∧
    [Io.allOk].length =
      (if Io.allOk.read then Coordinator.notifiedSample.db.getPendingWithdrawals else []).length ∧
    run Services.sample Coordinator.notifiedSample
        (.tick Io.allOk :: [Io.allOk].map .tick ++ .tick Io.allOk :: [Io.allOk].map .tick ++
          [.tick Io.allOk]) =
      processWithdrawals Services.sample Io.allOk.read [Io.allOk]
        (processDeposits Services.sample Io.allOk.read [Io.allOk] Coordinator.notifiedSample) :=
  ⟨rfl, rfl, rfl, tick_pass_refines Services.sample _ rfl _ _ _ _ _ rfl rfl⟩

end ZeroBridge
