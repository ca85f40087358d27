import ZeroBridge.Coordinator.StepSpec

/-!
# The withdrawal lifecycle

A `withdrawals` row is inserted by `notify_withdrawal_handler` and changed only by
`handle_withdrawal`, which either deletes it (`mark_withdrawal_invalid`, on a proof the
capability rejects) or authorizes it (`authorize_withdrawal`, after the capability marked
the nullifier spent).

As for deposits, the loop's snapshot is kept across steps; the **snapshot invariant**
`WithdrawalSnapshotPending` says that every withdrawal left in it is, unchanged, a pending
row of the table. From it, an authorized row is never changed again
(`authorized_withdrawal_final`), whatever the writes and the capability do.

Two things the engine does not do are shown by replayed runs. A deleted row leaves no trace,
so the same id can be notified again and authorized (`discarded_withdrawal_reauthorized`).
And the engine never consults the store's `nullifiers` table: whether two withdrawals with
one nullifier are both authorized is up to the capability alone
(`shared_nullifier_authorized_twice`). With a capability that refuses to spend a nullifier
twice, at most one row per nullifier is ever authorized
(`nullifier_exclusive_of_tracksSpent`).
-/

namespace ZeroBridge

/-- What is left of the loop's withdrawal snapshot. -/
def Phase.pendingWithdrawals : Phase → List Withdrawal
  | .withdrawals l => l
  | _ => []

variable {σ : Type} (sv : Services σ)

/-! ### What a step does to the withdrawals table -/

/-- A piece of the loop changes one withdrawal row at most, the head of the snapshot, which
it deletes or authorizes. -/
theorem tickStep_withdrawals (io : Io) (s : Coordinator σ) (k : String) :
    (tickStep sv io s).db.withdrawals.find? k = s.db.withdrawals.find? k ∨
    ∃ w rest, s.phase = .withdrawals (w :: rest) ∧ w.withdrawalId = k ∧
      ((tickStep sv io s).db.withdrawals.find? k = none ∨
        ∃ sig, (tickStep sv io s).db.withdrawals.find? k =
          (s.db.withdrawals.find? k).map (Withdrawal.authorize sig)) := by
  unfold tickStep
  split
  case h_3 d ds _ => exact .inl (by simp only [handleDeposit_withdrawals])
  case h_5 w ws hp =>
    rcases handleWithdrawal_db sv io w s with h | h | ⟨sig, h⟩
    · exact .inl (by simp only [h])
    all_goals by_cases hk : w.withdrawalId = k
    · exact .inr ⟨w, ws, hp, hk, .inl (by simp [h, hk])⟩
    · exact .inl (by simp [h, hk])
    · exact .inr ⟨w, ws, hp, hk, .inr ⟨sig, by simp [h, hk]⟩⟩
    · exact .inl (by simp [h, hk])
  all_goals exact .inl rfl

/-- A notification changes no row that exists. -/
theorem notifyWithdrawalHandler_of_some {db : Database} {ok : Bool} {now : Int}
    {n : WithdrawalNotification} {k : String} {r : Withdrawal}
    (h : db.withdrawals.find? k = some r) :
    (notifyWithdrawalHandler db ok now n).1.withdrawals.find? k = some r := by
  rw [notifyWithdrawalHandler_withdrawals, if_neg, h]
  rintro ⟨-, hn, rfl⟩
  simp [hn] at h

/-! ### The snapshot invariant -/

/-- **Snapshot invariant.** Every withdrawal left in the loop's snapshot is, unchanged, a
pending row of the table, and no id is in the snapshot twice. -/
def WithdrawalSnapshotPending (s : Coordinator σ) : Prop :=
  (s.phase.pendingWithdrawals.map Withdrawal.withdrawalId).Nodup ∧
    ∀ w ∈ s.phase.pendingWithdrawals,
      s.db.withdrawals.find? w.withdrawalId = some w ∧ w.authorized = false

theorem withdrawalSnapshotPending_init (lm : LiquidityManager) (s₀ : σ) :
    WithdrawalSnapshotPending (Coordinator.init lm s₀) :=
  ⟨List.nodup_nil, fun _ h => nomatch h⟩

theorem step_withdrawalSnapshotPending {s : Coordinator σ} (h : WithdrawalSnapshotPending s)
    (e : Event) : WithdrawalSnapshotPending (step sv s e) := by
  obtain ⟨hnd, hpend⟩ := h
  cases e with
  | notifyDeposit n ok =>
    exact ⟨hnd, fun w hw => by simpa [step, notifyDepositHandler_withdrawals] using hpend w hw⟩
  | notifyWithdrawal n now ok =>
    exact ⟨hnd, fun w hw => ⟨notifyWithdrawalHandler_of_some (hpend w hw).1, (hpend w hw).2⟩⟩
  | tick io =>
    simp only [step]
    unfold WithdrawalSnapshotPending tickStep
    split
    case h_2 =>
      split
      · exact ⟨Database.nodup_getPendingWithdrawals _,
          fun w hw => Database.mem_getPendingWithdrawals.mp hw⟩
      · exact ⟨List.nodup_nil, fun _ h => nomatch h⟩
    case h_5 w ws hp =>
      rw [hp] at hnd hpend
      simp only [Phase.pendingWithdrawals, List.map_cons, List.nodup_cons, List.mem_map]
        at hnd hpend ⊢
      refine ⟨hnd.2, fun w' hw' => ⟨?_, (hpend w' (List.mem_cons_of_mem _ hw')).2⟩⟩
      have hne : w.withdrawalId ≠ w'.withdrawalId := fun he => hnd.1 ⟨w', hw', he.symm⟩
      have hr := (hpend w' (List.mem_cons_of_mem _ hw')).1
      rcases handleWithdrawal_db sv io w s with h | h | ⟨sig, h⟩ <;> simp [h, hne, hr]
    all_goals exact ⟨List.nodup_nil, fun _ h => nomatch h⟩

theorem run_withdrawalSnapshotPending {s : Coordinator σ} (h : WithdrawalSnapshotPending s)
    (evs : List Event) : WithdrawalSnapshotPending (run sv s evs) := by
  induction evs using List.reverseRecOn with
  | nil => exact h
  | append_singleton evs e ih =>
    rw [run_append_singleton]
    exact step_withdrawalSnapshotPending sv ih e

/-! ### Authorized rows are final -/

theorem step_authorized_row {s : Coordinator σ} (h : WithdrawalSnapshotPending s) {k : String}
    {r : Withdrawal} (hr : s.db.withdrawals.find? k = some r) (ha : r.authorized = true)
    (e : Event) : (step sv s e).db.withdrawals.find? k = some r := by
  cases e with
  | notifyDeposit n ok => simpa [step, notifyDepositHandler_withdrawals] using hr
  | notifyWithdrawal n now ok => exact notifyWithdrawalHandler_of_some hr
  | tick io =>
    rcases tickStep_withdrawals sv io s k with h' | ⟨w, rest, hph, rfl, -⟩
    · rw [step, h', hr]
    · obtain ⟨hw, hwa⟩ := h.2 w (by simp [hph, Phase.pendingWithdrawals])
      rw [hr] at hw
      cases hw
      simp [ha] at hwa

theorem run_authorized_row {s : Coordinator σ} (h : WithdrawalSnapshotPending s) {k : String}
    {r : Withdrawal} (hr : s.db.withdrawals.find? k = some r) (ha : r.authorized = true)
    (evs : List Event) : (run sv s evs).db.withdrawals.find? k = some r := by
  induction evs using List.reverseRecOn with
  | nil => exact hr
  | append_singleton evs e ih =>
    rw [run_append_singleton]
    exact step_authorized_row sv (run_withdrawalSnapshotPending sv h evs) ih ha e

/-- **Authorized withdrawals are final.** In every run from a fresh start, whatever the
writes and the capability do, a withdrawal id has at most one row, and once that row is
authorized no later step changes it: its signature is final and it is not authorized
again. -/
theorem authorized_withdrawal_final (lm : LiquidityManager) (s₀ : σ) (evs : List Event)
    (k : String) :
    ((run sv (Coordinator.init lm s₀) evs).db.withdrawals.rows.filter
        fun r => r.withdrawalId = k).length ≤ 1 ∧
    ∀ r, (run sv (Coordinator.init lm s₀) evs).db.withdrawals.find? k = some r →
      r.authorized = true → ∀ more : List Event,
        (run sv (Coordinator.init lm s₀) (evs ++ more)).db.withdrawals.find? k = some r := by
  refine ⟨Table.length_filter_key_le_one _ k, fun r hr ha more => ?_⟩
  rw [run, List.foldl_append]
  exact run_authorized_row sv
    (run_withdrawalSnapshotPending sv (withdrawalSnapshotPending_init lm s₀) evs) hr ha more

/-! ### Replayed runs -/

/-- The withdrawal is notified and one pass of the loop discards it for its proof. -/
def discardRun : List Event :=
  [.notifyWithdrawal .sample 0 true, .tick .allOk, .tick .allOk, .tick .allOk, .tick .allOk]

/-- The same id is notified again, now with a proof the capability accepts, and one pass of
the loop handles it. -/
def renotifyRun : List Event :=
  [.notifyWithdrawal { WithdrawalNotification.sample with zcashProof := [1] } 1 true,
    .tick .allOk, .tick .allOk, .tick .allOk]

/-- **A discarded withdrawal comes back.** `mark_withdrawal_invalid` deletes the row, so a
later notification of the same id is stored as pending again, and this time authorized:
the id gets two processing outcomes. -/
theorem discarded_withdrawal_reauthorized :
    ((run Services.sample (Coordinator.init LiquidityManager.sample ())
      (discardRun.take 1)).db.withdrawals.find? "w1").map Withdrawal.authorized = some false ∧
    (run Services.sample (Coordinator.init LiquidityManager.sample ())
      discardRun).db.withdrawals.find? "w1" = none ∧
    ((run Services.sample (Coordinator.init LiquidityManager.sample ())
      (discardRun ++ renotifyRun)).db.withdrawals.find? "w1").map Withdrawal.authorized =
        some true := by
  decide

/-- Two withdrawals with different ids and one nullifier, notified and handled by one pass
of the loop. -/
def sharedNullifierRun : List Event :=
  [.notifyWithdrawal { WithdrawalNotification.sample with zcashProof := [1] } 0 true,
    .notifyWithdrawal
      { WithdrawalNotification.sample with withdrawalId := "w2", zcashProof := [1] } 0 true,
    .tick .allOk, .tick .allOk, .tick .allOk, .tick .allOk]

/-- **One nullifier, two authorizations.** `handle_withdrawal` never asks the store whether
the nullifier is spent; with a capability that lets both marks succeed, both rows are
authorized. -/
theorem shared_nullifier_authorized_twice :
    ((run Services.sample (Coordinator.init LiquidityManager.sample ())
      sharedNullifierRun).db.withdrawals.find? "w1").map
        (fun r => (r.nullifier, r.authorized)) = some ([7], true) ∧
    ((run Services.sample (Coordinator.init LiquidityManager.sample ())
      sharedNullifierRun).db.withdrawals.find? "w2").map
        (fun r => (r.nullifier, r.authorized)) = some ([7], true) := by
  decide

/-! ### Nullifiers, with a capability that tracks them -/

/-- What keeps nullifiers exclusive, asked of the capability: a set `spent` of nullifiers
in its state, such that `mark_nullifier_spent` succeeds only on an unspent nullifier and
then spends it, and no operation unspends one. -/
structure ShieldedPool.TracksSpent (cap : ShieldedPool σ) (spent : σ → Bytes → Prop) : Prop where
  mark_unspent : ∀ st nf st', cap.markNullifierSpent st nf = .ok st' → ¬ spent st nf
  mark_spends : ∀ st nf st', cap.markNullifierSpent st nf = .ok st' → spent st' nf
  mark_keeps : ∀ st nf st', cap.markNullifierSpent st nf = .ok st' → ∀ x, spent st x → spent st' x
  note_keeps : ∀ st c t a r z st' nc tx, cap.createDepositNote st c t a r z = .ok (st', nc, tx) →
    ∀ x, spent st x → spent st' x

/-- **Nullifier invariant.** Every authorized row's nullifier is spent in the capability's
state, and no two authorized rows share a nullifier. -/
def NullifiersExclusive (spent : σ → Bytes → Prop) (s : Coordinator σ) : Prop :=
  (∀ k r, s.db.withdrawals.find? k = some r → r.authorized = true →
      spent s.shielded r.nullifier) ∧
    ∀ k₁ k₂ r₁ r₂, s.db.withdrawals.find? k₁ = some r₁ → s.db.withdrawals.find? k₂ = some r₂ →
      r₁.authorized = true → r₂.authorized = true → r₁.nullifier = r₂.nullifier → k₁ = k₂

/-- The invariant passes to a state with no new authorized row and no nullifier unspent. -/
theorem NullifiersExclusive.mono {spent : σ → Bytes → Prop} {s s' : Coordinator σ}
    (h : NullifiersExclusive spent s)
    (hrows : ∀ k r, s'.db.withdrawals.find? k = some r → r.authorized = true →
      s.db.withdrawals.find? k = some r)
    (hspent : ∀ x, spent s.shielded x → spent s'.shielded x) : NullifiersExclusive spent s' :=
  ⟨fun k r hr ha => hspent _ (h.1 k r (hrows k r hr ha) ha),
    fun k₁ k₂ r₁ r₂ h₁ h₂ a₁ a₂ => h.2 k₁ k₂ r₁ r₂ (hrows _ _ h₁ a₁) (hrows _ _ h₂ a₂) a₁ a₂⟩

/-- Authorizing a pending row whose nullifier the capability just spent keeps the
invariant. -/
theorem NullifiersExclusive.authorize {spent : σ → Bytes → Prop} {s s' : Coordinator σ}
    (h : NullifiersExclusive spent s) {w : Withdrawal}
    (hw : s.db.withdrawals.find? w.withdrawalId = some w) (hfresh : ¬ spent s.shielded w.nullifier)
    (hsp : spent s'.shielded w.nullifier) (hkeep : ∀ x, spent s.shielded x → spent s'.shielded x)
    {sig : Bytes} (hdb : s'.db = s.db.withAuthorized w.withdrawalId sig) :
    NullifiersExclusive spent s' := by
  have hrow : ∀ k r, s'.db.withdrawals.find? k = some r → r.authorized = true →
      (k = w.withdrawalId ∧ r.nullifier = w.nullifier) ∨
      (s.db.withdrawals.find? k = some r ∧ r.nullifier ≠ w.nullifier) := by
    intro k r hr ha
    rw [hdb, Database.withAuthorized_withdrawals_find?] at hr
    split at hr
    · rename_i hk
      rw [hw] at hr
      cases hr
      exact .inl ⟨hk.symm, rfl⟩
    · exact .inr ⟨hr, fun he => hfresh (he ▸ h.1 k r hr ha)⟩
  refine ⟨fun k r hr ha => ?_, fun k₁ k₂ r₁ r₂ h₁ h₂ a₁ a₂ he => ?_⟩
  · rcases hrow k r hr ha with ⟨-, hn⟩ | ⟨hr', -⟩
    · exact hn ▸ hsp
    · exact hkeep _ (h.1 k r hr' ha)
  · rcases hrow _ _ h₁ a₁ with ⟨rfl, hn₁⟩ | ⟨h₁', hn₁⟩ <;>
      rcases hrow _ _ h₂ a₂ with ⟨rfl, hn₂⟩ | ⟨h₂', hn₂⟩
    · rfl
    · exact absurd (he ▸ hn₁) hn₂
    · exact absurd (he.symm ▸ hn₂) hn₁
    · exact h.2 _ _ _ _ h₁' h₂' a₁ a₂ he

section TracksSpent

variable {spent : σ → Bytes → Prop} (hcap : sv.shieldedPool.TracksSpent spent)
include hcap

theorem step_nullifiersExclusive {s : Coordinator σ} (hsnap : WithdrawalSnapshotPending s)
    (h : NullifiersExclusive spent s) (e : Event) : NullifiersExclusive spent (step sv s e) := by
  cases e with
  | notifyDeposit n ok =>
    exact h.mono (fun k r hr _ => by simpa [step, notifyDepositHandler_withdrawals] using hr)
      fun _ => id
  | notifyWithdrawal n now ok =>
    refine h.mono (fun k r hr ha => ?_) fun _ => id
    simp only [step, notifyWithdrawalHandler_withdrawals] at hr
    split at hr
    · cases hr
      simp [WithdrawalNotification.toWithdrawal] at ha
    · exact hr
  | tick io =>
    simp only [step]
    unfold tickStep
    split
    case h_3 d ds _ =>
      rcases handleDeposit_cases sv io d s with hd | ⟨ti, σ', nc, tx, -, -, hc, hd⟩
      · simpa only [hd] using h
      · refine h.mono (fun k r hr _ => by simpa only [handleDeposit_withdrawals] using hr) ?_
        simpa only [hd] using hcap.note_keeps _ _ _ _ _ _ _ _ _ hc
    case h_5 w ws hp =>
      have hw := (hsnap.2 w (by simp [hp, Phase.pendingWithdrawals])).1
      rcases handleWithdrawal_cases sv io w s with
        hd | ⟨-, -, hd⟩ | ⟨σ', -, hm, hd | ⟨ti, -, -, hd⟩⟩ <;> simp only [hd]
      · exact h
      · refine h.mono (fun k r hr _ => ?_) fun _ => id
        simp only [Database.withoutWithdrawal_withdrawals_find?] at hr
        split at hr
        · cases hr
        · exact hr
      · exact h.mono (fun k r hr _ => hr) (hcap.mark_keeps _ _ _ hm)
      · exact h.authorize hw (hcap.mark_unspent _ _ _ hm) (hcap.mark_spends _ _ _ hm)
          (hcap.mark_keeps _ _ _ hm) rfl
    all_goals exact h

theorem run_nullifiersExclusive (lm : LiquidityManager) (s₀ : σ) (evs : List Event) :
    NullifiersExclusive spent (run sv (Coordinator.init lm s₀) evs) := by
  induction evs using List.reverseRecOn with
  | nil => exact ⟨fun k r h => by simp [Coordinator.init, Database.empty] at h,
      fun k₁ k₂ r₁ r₂ h => by simp [Coordinator.init, Database.empty] at h⟩
  | append_singleton evs e ih =>
    rw [run_append_singleton]
    exact step_nullifiersExclusive sv hcap
      (run_withdrawalSnapshotPending sv (withdrawalSnapshotPending_init lm s₀) evs) ih e

/-- **Nullifier exclusivity, given the capability.** With a capability that refuses to
spend a nullifier twice, every run from a fresh start has at most one authorized row with a
given nullifier. -/
theorem nullifier_exclusive_of_tracksSpent (lm : LiquidityManager) (s₀ : σ) (evs : List Event)
    (nf : Bytes) :
    ((run sv (Coordinator.init lm s₀) evs).db.withdrawals.rows.filter
      fun r => r.authorized && decide (r.nullifier = nf)).length ≤ 1 := by
  have h := (run_nullifiersExclusive sv hcap lm s₀ evs).2
  refine Table.length_filter_le_one _ _ fun a ha b hb hpa hpb => ?_
  simp only [Bool.and_eq_true, decide_eq_true_eq] at hpa hpb
  exact h _ _ a b (Table.find?_eq_some_iff.mpr ⟨ha, rfl⟩) (Table.find?_eq_some_iff.mpr ⟨hb, rfl⟩)
    hpa.1 hpb.1 (hpa.2.trans hpb.2.symm)

end TracksSpent

/-- A capability whose state is the list of spent nullifiers, and which accepts every
non-empty proof. -/
def ShieldedPool.spentList : ShieldedPool (List Bytes) where
  createDepositNote st _ _ _ _ _ := .ok (st, [0xab], "zc-tx")
  verifyWithdrawalProof _ _ proof _ _ := .ok !proof.isEmpty
  markNullifierSpent st nf := if nf ∈ st then .error "Nullifier already spent" else .ok (nf :: st)

/-- The sample registry and hash, with the tracking capability. -/
def Services.spentList : Services (List Bytes) :=
  ⟨Services.sample.registry, ShieldedPool.spentList, HashInput.message⟩

theorem nullifier_exclusive_spentList :
    Services.spentList.shieldedPool.TracksSpent (fun st x => x ∈ st) ∧
    ((run Services.spentList (Coordinator.init LiquidityManager.sample []) sharedNullifierRun).db.withdrawals.rows.filter
      fun r => r.authorized && decide (r.nullifier = [7])).length ≤ 1 := by
  have hcap : Services.spentList.shieldedPool.TracksSpent (fun st x => x ∈ st) := by
    refine ⟨fun st nf st' h => ?_, fun st nf st' h => ?_, fun st nf st' h => ?_,
      fun st _ _ _ _ _ st' _ _ h => ?_⟩
    all_goals simp only [Services.spentList, ShieldedPool.spentList] at h
    all_goals (try split at h) <;> cases h
    all_goals simp_all
  exact ⟨hcap, nullifier_exclusive_of_tracksSpent Services.spentList hcap LiquidityManager.sample []
    sharedNullifierRun [7]⟩

/-! ### Partial failures -/

/-- The test file's registry, with the tracking capability. -/
def Services.testFileSpentList : Services (List Bytes) :=
  ⟨TokenRegistry.load .ascii id .sample, ShieldedPool.spentList, HashInput.message⟩

/-- A withdrawal of `"ETH"`, an address the test file does not list, notified with a proof
the capability accepts, then one pass of the loop. -/
def lookupFailRun : List Event :=
  [.notifyWithdrawal { WithdrawalNotification.sample with zcashProof := [1] } 0 true,
    .tick .allOk, .tick .allOk, .tick .allOk]

/-- The next pass of the loop, which takes the row again. -/
def retryPass : List Event := [.tick .allOk, .tick .allOk, .tick .allOk, .tick .allOk]

end ZeroBridge
