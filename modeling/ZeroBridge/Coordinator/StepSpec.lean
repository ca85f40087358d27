import ZeroBridge.Coordinator.Engine

/-!
# What each step of the coordinator can do

One inversion lemma per handler: `handleDeposit_cases` and `handleWithdrawal_cases` list
every outcome of the two pipelines with the state each leaves, guards included, and the
notification lemmas say what an `INSERT` leaves in the tables. The run-level results
about the coordinator are proved from these and never unfold a handler again.
-/

namespace ZeroBridge

variable {σ : Type} (sv : Services σ)

/-- **Deposit pipeline.** `handle_deposit` either changes nothing, or it resolved the token,
found the pool funded, and created a note; then it has run `lock_liquidity` and recorded
the note (and the lock, if it moved funds), and it has marked the row processed exactly
when the lock and the write both succeeded. -/
theorem handleDeposit_cases (io : Io) (d : Deposit) (s : Coordinator σ) :
    (handleDeposit sv io d s).1 = s ∨
    ∃ ti σ' nc tx, sv.registry.getTokenForChain d.targetChainId d.token = .ok ti ∧
      s.liquidity.ensureLiquidity d.targetChainId ti.address d.amount = .ok () ∧
      sv.shieldedPool.createDepositNote s.shielded d.sourceChainId d.token d.amount d.recipient
        d.zcashAddress = .ok (σ', nc, tx) ∧
      (handleDeposit sv io d s).1 =
        { s with
          shielded := σ'
          liquidity := (s.liquidity.lockLiquidity io.pool d.targetChainId ti.address d.amount).1
          log := s.log ++ .noteCreated d.depositId ::
            if s.liquidity.lockApplies d.targetChainId ti.address d.amount
            then [.locked d.depositId (d.targetChainId, ti.address) d.amount] else []
          db := if (s.liquidity.lockLiquidity io.pool d.targetChainId ti.address d.amount).2.isOk &&
              io.store then s.db.withProcessed d.depositId (hexEncode nc) tx else s.db } := by
  unfold handleDeposit
  split
  · exact .inl rfl
  · rename_i ti hti
    split
    · exact .inl rfl
    · rename_i he
      split
      · exact .inl rfl
      · rename_i σ' nc tx hc
        refine .inr ⟨ti, σ', nc, tx, hti, he, hc, ?_⟩
        rcases hr : (s.liquidity.lockLiquidity io.pool d.targetChainId ti.address d.amount).2
          with e | ⟨⟩ <;> cases hs : io.store <;>
          simp [hr, hs, Database.markDepositProcessed, Except.isOk, Except.toBool]

/-- **Withdrawal pipeline, with its result.** `handle_withdrawal` either returns `Err` and
changes nothing; or the proof was invalid and it deleted the row, returning `Ok`; or the proof
was valid and the capability marked the nullifier, after which it either returned `Err`
keeping only the capability's new state (unknown token, or the authorizing write failed), or
authorized the row with the signature over the resolved token and ran `release_liquidity`,
returning what that returned and recording the release if it moved funds. -/
theorem handleWithdrawal_spec (io : Io) (w : Withdrawal) (s : Coordinator σ) :
    (∃ m, handleWithdrawal sv io w s = (s, .error m)) ∨
    (sv.shieldedPool.verifyWithdrawalProof s.shielded w.nullifier w.zcashProof w.merkleRoot
        w.amount = .ok false ∧ io.store = true ∧
      handleWithdrawal sv io w s = ({ s with db := s.db.withoutWithdrawal w.withdrawalId }, .ok ())) ∨
    ∃ σ', sv.shieldedPool.verifyWithdrawalProof s.shielded w.nullifier w.zcashProof w.merkleRoot
        w.amount = .ok true ∧ sv.shieldedPool.markNullifierSpent s.shielded w.nullifier = .ok σ' ∧
      ((∃ m, handleWithdrawal sv io w s = ({ s with shielded := σ' }, .error m)) ∨
        ∃ ti, sv.registry.getTokenForChain w.targetChainId w.token = .ok ti ∧ io.store = true ∧
          handleWithdrawal sv io w s =
            ({ s with
              shielded := σ'
              db := s.db.withAuthorized w.withdrawalId (generateWithdrawalSignature sv.digest
                w.withdrawalId w.recipient ti.address w.amount w.nullifier)
              liquidity := (s.liquidity.releaseLiquidity io.pool w.targetChainId ti.address
                w.amount).1
              log := s.log ++
                if s.liquidity.releaseApplies w.targetChainId ti.address w.amount
                then [.released w.withdrawalId (w.targetChainId, ti.address) w.amount] else [] },
              (s.liquidity.releaseLiquidity io.pool w.targetChainId ti.address w.amount).2.mapError
                LiquidityError.message)) := by
  unfold handleWithdrawal
  split
  · exact .inl ⟨_, rfl⟩
  · rename_i hv
    split
    · exact .inl ⟨_, rfl⟩
    · rename_i db' hdb
      obtain ⟨hs, rfl⟩ := Database.markWithdrawalInvalid_ok hdb
      exact .inr (.inl ⟨hv, hs, rfl⟩)
  · rename_i hv
    split
    · exact .inl ⟨_, rfl⟩
    · rename_i σ' hm
      refine .inr (.inr ⟨σ', hv, hm, ?_⟩)
      split
      · exact .inl ⟨_, rfl⟩
      · rename_i ti hti
        dsimp only
        split
        · exact .inl ⟨_, rfl⟩
        · rename_i db' hdb
          obtain ⟨hs, rfl⟩ := Database.authorizeWithdrawal_ok hdb
          exact .inr ⟨ti, hti, hs, rfl⟩

/-- **Withdrawal pipeline.** `handle_withdrawal` either changes nothing; or the proof was
invalid and it deleted the row; or the proof was valid and the capability marked the
nullifier, after which it either stopped (unknown token, or the authorizing write failed)
or authorized the row with the signature over the resolved token and ran
`release_liquidity`, recording the release if it moved funds. -/
theorem handleWithdrawal_cases (io : Io) (w : Withdrawal) (s : Coordinator σ) :
    (handleWithdrawal sv io w s).1 = s ∨
    (sv.shieldedPool.verifyWithdrawalProof s.shielded w.nullifier w.zcashProof w.merkleRoot
        w.amount = .ok false ∧ io.store = true ∧
      (handleWithdrawal sv io w s).1 =
        { s with db := s.db.withoutWithdrawal w.withdrawalId }) ∨
    ∃ σ', sv.shieldedPool.verifyWithdrawalProof s.shielded w.nullifier w.zcashProof w.merkleRoot
        w.amount = .ok true ∧ sv.shieldedPool.markNullifierSpent s.shielded w.nullifier = .ok σ' ∧
      ((handleWithdrawal sv io w s).1 = { s with shielded := σ' } ∨
        ∃ ti, sv.registry.getTokenForChain w.targetChainId w.token = .ok ti ∧ io.store = true ∧
          (handleWithdrawal sv io w s).1 =
            { s with
              shielded := σ'
              db := s.db.withAuthorized w.withdrawalId (generateWithdrawalSignature sv.digest
                w.withdrawalId w.recipient ti.address w.amount w.nullifier)
              liquidity := (s.liquidity.releaseLiquidity io.pool w.targetChainId ti.address
                w.amount).1
              log := s.log ++
                if s.liquidity.releaseApplies w.targetChainId ti.address w.amount
                then [.released w.withdrawalId (w.targetChainId, ti.address) w.amount] else [] }) := by
  rcases handleWithdrawal_spec sv io w s with ⟨_, h⟩ | ⟨hv, hs, h⟩ | ⟨σ', hv, hm, ⟨_, h⟩ | ⟨ti, hti, hs, h⟩⟩ <;>
    rw [h]
  · exact .inl rfl
  · exact .inr (.inl ⟨hv, hs, rfl⟩)
  · exact .inr (.inr ⟨σ', hv, hm, .inl rfl⟩)
  · exact .inr (.inr ⟨σ', hv, hm, .inr ⟨ti, hti, hs, rfl⟩⟩)

theorem handleDeposit_db (io : Io) (d : Deposit) (s : Coordinator σ) :
    (handleDeposit sv io d s).1.db = s.db ∨
      ∃ nc tx, (handleDeposit sv io d s).1.db = s.db.withProcessed d.depositId nc tx := by
  rcases handleDeposit_cases sv io d s with h | ⟨ti, σ', nc, tx, -, -, -, h⟩
  · exact .inl (by rw [h])
  · rw [h]
    split
    · exact .inr ⟨_, _, rfl⟩
    · exact .inl rfl

/-- With the pool write and the table write succeeding, `handle_deposit` either changes
nothing, or it creates the note, locks the pool and marks the row processed, all three. -/
theorem handleDeposit_of_writes {io : Io} (hs : io.store = true) (hp : io.pool = true)
    (d : Deposit) (s : Coordinator σ) :
    (handleDeposit sv io d s).1 = s ∨ ∃ key nc tx,
      (handleDeposit sv io d s).1.log =
        s.log ++ [.noteCreated d.depositId, .locked d.depositId key d.amount] ∧
      (handleDeposit sv io d s).1.db = s.db.withProcessed d.depositId nc tx := by
  rcases handleDeposit_cases sv io d s with h | ⟨ti, σ', nc, tx, -, he, -, h⟩
  · exact .inl h
  · have hl := LiquidityManager.lockLiquidity_ok_of_ensureLiquidity he
    refine .inr ⟨(d.targetChainId, ti.address), hexEncode nc, tx, ?_, ?_⟩ <;> rw [h] <;>
      simp [hs, hp, hl, LiquidityManager.lockApplies_of_ensureLiquidity he, Except.isOk,
        Except.toBool]

/-- `handle_withdrawal` adds at most one release to the log. -/
theorem handleWithdrawal_log (io : Io) (w : Withdrawal) (s : Coordinator σ) :
    (handleWithdrawal sv io w s).1.log = s.log ∨
      ∃ key a, (handleWithdrawal sv io w s).1.log = s.log ++ [.released w.withdrawalId key a] := by
  rcases handleWithdrawal_cases sv io w s with h | ⟨-, -, h⟩ | ⟨σ', -, -, h | ⟨ti, -, -, h⟩⟩
  all_goals rw [h]
  · exact .inl rfl
  · exact .inl rfl
  · exact .inl rfl
  · dsimp only
    split
    · exact .inr ⟨_, _, rfl⟩
    · exact .inl (List.append_nil _)

theorem handleDeposit_withdrawals (io : Io) (d : Deposit) (s : Coordinator σ) :
    (handleDeposit sv io d s).1.db.withdrawals = s.db.withdrawals := by
  rcases handleDeposit_db sv io d s with h | ⟨nc, tx, h⟩ <;> rw [h]
  rfl

/-- `handle_withdrawal` changes the store only in the row of its own withdrawal, which it
deletes or authorizes. -/
theorem handleWithdrawal_db (io : Io) (w : Withdrawal) (s : Coordinator σ) :
    (handleWithdrawal sv io w s).1.db = s.db ∨
    (handleWithdrawal sv io w s).1.db = s.db.withoutWithdrawal w.withdrawalId ∨
    ∃ sig, (handleWithdrawal sv io w s).1.db = s.db.withAuthorized w.withdrawalId sig := by
  rcases handleWithdrawal_cases sv io w s with h | ⟨-, -, h⟩ | ⟨σ', -, -, h | ⟨ti, -, -, h⟩⟩ <;>
    rw [h]
  · exact .inl rfl
  · exact .inr (.inl rfl)
  · exact .inl rfl
  · exact .inr (.inr ⟨_, rfl⟩)

theorem handleWithdrawal_deposits (io : Io) (w : Withdrawal) (s : Coordinator σ) :
    (handleWithdrawal sv io w s).1.db.deposits = s.db.deposits := by
  rcases handleWithdrawal_db sv io w s with h | h | ⟨sig, h⟩ <;> rw [h] <;> rfl

/-! ### Notifications -/

theorem notifyDepositHandler_deposits (db : Database) (ok : Bool) (n : DepositNotification)
    (k : String) : (notifyDepositHandler db ok n).1.deposits.find? k =
      if ok = true ∧ db.deposits.find? n.depositId = none ∧ n.depositId = k
      then some n.toDeposit else db.deposits.find? k := by
  unfold notifyDepositHandler
  split
  · rename_i db' h
    obtain ⟨hok, hi, -⟩ := Database.storeDeposit_ok h
    have hn : db.deposits.find? n.depositId = none := Table.find?_eq_none_of_insert hi
    rw [Table.find?_insert hi]
    simp [hok, hn, DepositNotification.toDeposit]
  · rename_i e h
    split
    · rename_i hc
      obtain ⟨rfl, hn, -⟩ := hc
      have := Database.storeDeposit_true_error h
      simp [DepositNotification.toDeposit, hn] at this
    · rfl

theorem notifyDepositHandler_withdrawals (db : Database) (ok : Bool) (n : DepositNotification) :
    (notifyDepositHandler db ok n).1.withdrawals = db.withdrawals := by
  unfold notifyDepositHandler
  split
  · exact (Database.storeDeposit_ok ‹_›).2.2
  · rfl

theorem notifyWithdrawalHandler_deposits (db : Database) (ok : Bool) (now : Int)
    (n : WithdrawalNotification) : (notifyWithdrawalHandler db ok now n).1.deposits = db.deposits := by
  unfold notifyWithdrawalHandler
  split
  · exact (Database.storeWithdrawal_ok ‹_›).2.2
  · rfl

theorem notifyWithdrawalHandler_withdrawals (db : Database) (ok : Bool) (now : Int)
    (n : WithdrawalNotification) (k : String) :
    (notifyWithdrawalHandler db ok now n).1.withdrawals.find? k =
      if ok = true ∧ db.withdrawals.find? n.withdrawalId = none ∧ n.withdrawalId = k
      then some (n.toWithdrawal now) else db.withdrawals.find? k := by
  unfold notifyWithdrawalHandler
  split
  · rename_i db' h
    obtain ⟨hok, hi, -⟩ := Database.storeWithdrawal_ok h
    have hn : db.withdrawals.find? n.withdrawalId = none := Table.find?_eq_none_of_insert hi
    rw [Table.find?_insert hi]
    simp [hok, hn, WithdrawalNotification.toWithdrawal]
  · rename_i e h
    split
    · rename_i hc
      obtain ⟨rfl, hn, -⟩ := hc
      have := Database.storeWithdrawal_true_error h
      simp [WithdrawalNotification.toWithdrawal, hn] at this
    · rfl

end ZeroBridge
