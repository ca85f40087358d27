import ZeroBridge.Coordinator.StepSpec

/-!
# The deposit lifecycle

A `deposits` row is inserted by `notify_deposit_handler` and changed only by
`handle_deposit`, through `mark_deposit_processed`. This module follows one `deposit_id`
through every run of the coordinator from a fresh start, for every interleaving of
notifications with the pieces of the tick loop.

The loop keeps its snapshot of pending rows across steps, and notifications arrive between
its pieces. The **snapshot invariant** `DepositSnapshotPending` says that every row left in
the snapshot is still pending in the table, and that no id is in the snapshot twice. It
holds from a fresh start on (`run_depositSnapshotPending`), and it is what keeps a
processed row from being handled a second time (`run_processed_row`).

With every write succeeding, a row's fields are those of the first notification for its id
(`DepositOrigins`), and a processed row is never touched again
(`deposit_lifecycle_one_shot`).
-/

namespace ZeroBridge

/-! ### Events and notifications -/

/-- The deposit notification for `id` the event carries, if any. -/
def Event.depositNotification? (id : String) : Event → Option DepositNotification
  | .notifyDeposit n _ => if n.depositId = id then some n else none
  | _ => none

/-- The first notification for `id` among the events. -/
def firstDepositNotification (id : String) (evs : List Event) : Option DepositNotification :=
  evs.findSome? (Event.depositNotification? id)

theorem firstDepositNotification_append_singleton (id : String) (evs : List Event) (e : Event) :
    firstDepositNotification id (evs ++ [e]) =
      (firstDepositNotification id evs).or (e.depositNotification? id) := by
  simp only [firstDepositNotification, List.findSome?_append, List.findSome?_cons,
    List.findSome?_nil]
  cases e.depositNotification? id <;> rfl

/-- The fields of a deposit row that come from its notification. -/
def Deposit.origin (d : Deposit) : Nat × Nat × String × Bytes × String × Nat × Bytes :=
  (d.sourceChainId, d.targetChainId, d.sender, d.recipient, d.token, d.amount, d.zcashAddress)

/-- The fields of a notification that its row keeps. -/
def DepositNotification.origin (n : DepositNotification) :
    Nat × Nat × String × Bytes × String × Nat × Bytes :=
  (n.sourceChainId, n.targetChainId, n.sender, n.recipient, n.token, n.amount, n.zcashAddress)

@[simp]
theorem origin_toDeposit (n : DepositNotification) : n.toDeposit.origin = n.origin := rfl

@[simp]
theorem origin_markProcessed (nc tx : String) (d : Deposit) :
    (d.markProcessed nc tx).origin = d.origin := rfl

/-- What is left of the loop's deposit snapshot. -/
def Phase.pendingDeposits : Phase → List Deposit
  | .deposits l => l
  | _ => []

variable {σ : Type} (sv : Services σ)

/-! ### What a step does to the deposits table -/

/-- A piece of the loop changes one deposit row at most, the head of the snapshot, and
only by marking it processed. -/
theorem tickStep_deposits (io : Io) (s : Coordinator σ) (k : String) :
    (tickStep sv io s).db.deposits.find? k = s.db.deposits.find? k ∨
    ∃ d rest nc tx, s.phase = .deposits (d :: rest) ∧ d.depositId = k ∧
      (tickStep sv io s).db.deposits.find? k =
        (s.db.deposits.find? k).map (Deposit.markProcessed nc tx) := by
  unfold tickStep
  split
  case h_3 d ds hp =>
    rcases handleDeposit_db sv io d s with h | ⟨nc, tx, h⟩
    · exact .inl (by simp only [h])
    · by_cases hk : d.depositId = k
      · subst hk
        exact .inr ⟨d, ds, nc, tx, hp, rfl, by simp [h]⟩
      · exact .inl (by simp [h, hk])
  case h_5 w ws _ => exact .inl (by simp only [handleWithdrawal_deposits])
  all_goals exact .inl rfl

/-! ### The snapshot invariant -/

/-- **Snapshot invariant.** Every deposit left in the loop's snapshot is a pending row of
the table, and no id is in the snapshot twice. -/
def DepositSnapshotPending (s : Coordinator σ) : Prop :=
  (s.phase.pendingDeposits.map Deposit.depositId).Nodup ∧
    ∀ d ∈ s.phase.pendingDeposits, ∃ r, s.db.deposits.find? d.depositId = some r ∧
      r.processed = false

theorem depositSnapshotPending_init (lm : LiquidityManager) (s₀ : σ) :
    DepositSnapshotPending (Coordinator.init lm s₀) :=
  ⟨List.nodup_nil, fun _ h => nomatch h⟩

/-- A notification changes no row that exists. -/
theorem notifyDepositHandler_of_some {db : Database} {ok : Bool} {n : DepositNotification}
    {k : String} {r : Deposit} (h : db.deposits.find? k = some r) :
    (notifyDepositHandler db ok n).1.deposits.find? k = some r := by
  rw [notifyDepositHandler_deposits, if_neg, h]
  rintro ⟨-, hn, rfl⟩
  simp [hn] at h

/-- A step keeps the snapshot invariant. -/
theorem step_depositSnapshotPending {s : Coordinator σ} (h : DepositSnapshotPending s)
    (e : Event) : DepositSnapshotPending (step sv s e) := by
  obtain ⟨hnd, hpend⟩ := h
  cases e with
  | notifyDeposit n ok =>
    refine ⟨hnd, fun d hd => ?_⟩
    obtain ⟨r, hr, hp⟩ := hpend d hd
    exact ⟨r, notifyDepositHandler_of_some hr, hp⟩
  | notifyWithdrawal n now ok =>
    exact ⟨hnd, fun d hd => by simpa [step, notifyWithdrawalHandler_deposits] using hpend d hd⟩
  | tick io =>
    simp only [step]
    unfold DepositSnapshotPending tickStep
    split
    case h_1 =>
      split
      · refine ⟨Database.nodup_getPendingDeposits _, fun d hd => ⟨d, ?_⟩⟩
        exact Database.mem_getPendingDeposits.mp hd
      · exact ⟨List.nodup_nil, fun _ h => nomatch h⟩
    case h_3 d ds hp =>
      rw [hp] at hnd hpend
      simp only [Phase.pendingDeposits, List.map_cons, List.nodup_cons, List.mem_map] at hnd hpend ⊢
      refine ⟨hnd.2, fun d' hd' => ?_⟩
      obtain ⟨r, hr, hpr⟩ := hpend d' (List.mem_cons_of_mem _ hd')
      have hne : d.depositId ≠ d'.depositId := fun he => hnd.1 ⟨d', hd', he.symm⟩
      rcases handleDeposit_db sv io d s with hdb | ⟨nc, tx, hdb⟩
      · exact ⟨r, by simp only [hdb, hr], hpr⟩
      · exact ⟨r, by simp [hdb, hne, hr], hpr⟩
    all_goals exact ⟨List.nodup_nil, fun _ h => nomatch h⟩

theorem run_depositSnapshotPending {s : Coordinator σ} (h : DepositSnapshotPending s)
    (evs : List Event) : DepositSnapshotPending (run sv s evs) := by
  induction evs using List.reverseRecOn with
  | nil => exact h
  | append_singleton evs e ih =>
    rw [run_append_singleton]
    exact step_depositSnapshotPending sv ih e

/-- **Processed rows are final.** Under the snapshot invariant, no step changes a processed
row. -/
theorem step_processed_row {s : Coordinator σ} (h : DepositSnapshotPending s) {k : String}
    {r : Deposit} (hr : s.db.deposits.find? k = some r) (hp : r.processed = true) (e : Event) :
    (step sv s e).db.deposits.find? k = some r := by
  cases e with
  | notifyDeposit n ok => exact notifyDepositHandler_of_some hr
  | notifyWithdrawal n now ok => simpa [step, notifyWithdrawalHandler_deposits] using hr
  | tick io =>
    rcases tickStep_deposits sv io s k with h' | ⟨d, rest, nc, tx, hph, rfl, -⟩
    · rw [step, h', hr]
    · obtain ⟨r', hr', hp'⟩ := h.2 d (by simp [hph, Phase.pendingDeposits])
      rw [hr] at hr'
      cases hr'
      simp [hp] at hp'

theorem run_processed_row {s : Coordinator σ} (h : DepositSnapshotPending s) {k : String}
    {r : Deposit} (hr : s.db.deposits.find? k = some r) (hp : r.processed = true)
    (evs : List Event) : (run sv s evs).db.deposits.find? k = some r := by
  induction evs using List.reverseRecOn with
  | nil => exact hr
  | append_singleton evs e ih =>
    rw [run_append_singleton]
    exact step_processed_row sv (run_depositSnapshotPending sv h evs) ih hp e

/-! ### Where a row's fields come from -/

/-- **Origin invariant.** A deposit row exists exactly when a notification for its id
was among the events, and its fields are those of the first one. -/
def DepositOrigins (s : Coordinator σ) (evs : List Event) : Prop :=
  ∀ k, (s.db.deposits.find? k = none → firstDepositNotification k evs = none) ∧
    ∀ r, s.db.deposits.find? k = some r →
      ∃ n, firstDepositNotification k evs = some n ∧ r.origin = n.origin

theorem step_depositOrigins {s : Coordinator σ} {evs : List Event} (h : DepositOrigins s evs)
    {e : Event} (he : e.writesSucceed = true) : DepositOrigins (step sv s e) (evs ++ [e]) := by
  intro k
  obtain ⟨hnone, hsome⟩ := h k
  simp only [firstDepositNotification_append_singleton]
  cases e with
  | notifyDeposit n ok =>
    simp only [Event.writesSucceed] at he
    subst he
    simp only [step, notifyDepositHandler_deposits, true_and, Event.depositNotification?]
    by_cases hc : s.db.deposits.find? n.depositId = none ∧ n.depositId = k
    · obtain ⟨hn, rfl⟩ := hc
      simp [hn, hnone hn]
    · rw [if_neg hc]
      refine ⟨fun hk => ?_, fun r hk => ?_⟩
      · have hne : n.depositId ≠ k := fun h' => hc ⟨h' ▸ hk, h'⟩
        simp [hnone hk, hne]
      · obtain ⟨n', hn', ho⟩ := hsome r hk
        exact ⟨n', by simp [hn'], ho⟩
  | notifyWithdrawal n now ok =>
    simpa [step, notifyWithdrawalHandler_deposits, Event.depositNotification?] using
      And.intro hnone hsome
  | tick io =>
    simp only [Event.depositNotification?, Option.or_none, step]
    rcases tickStep_deposits sv io s k with h' | ⟨d, rest, nc, tx, -, -, h'⟩ <;> rw [h']
    · exact ⟨hnone, hsome⟩
    · refine ⟨fun hk => hnone (by simpa using hk), fun r hk => ?_⟩
      obtain ⟨r₀, hr₀, rfl⟩ := Option.map_eq_some'.mp hk
      simpa using hsome r₀ hr₀

theorem run_depositOrigins (lm : LiquidityManager) (s₀ : σ) (evs : List Event)
    (hw : ∀ e ∈ evs, e.writesSucceed = true) :
    DepositOrigins (run sv (Coordinator.init lm s₀) evs) evs := by
  induction evs using List.reverseRecOn with
  | nil => exact fun k => ⟨fun _ => rfl, fun r h => by simp [Coordinator.init, Database.empty] at h⟩
  | append_singleton evs e ih =>
    rw [run_append_singleton]
    exact step_depositOrigins sv (ih fun e' he' => hw e' (by simp [he']))
      (hw e (by simp))

/-- **Deposit lifecycle.** In every run from a fresh start in which every write succeeds,
each `deposit_id` has at most one row, whose chains, sender, recipient, token, amount and
Zcash address are those of the first notification for the id; and once the row is
processed, no later step changes it (so its note commitment and transaction id are final and
it never becomes pending again) and `get_pending_deposits` never returns it. -/
theorem deposit_lifecycle_one_shot (lm : LiquidityManager) (s₀ : σ) (evs : List Event)
    (hw : ∀ e ∈ evs, e.writesSucceed = true) (k : String) :
    ((run sv (Coordinator.init lm s₀) evs).db.deposits.rows.filter
        fun r => r.depositId = k).length ≤ 1 ∧
    (∀ r, (run sv (Coordinator.init lm s₀) evs).db.deposits.find? k = some r →
      ∃ n, firstDepositNotification k evs = some n ∧ r.origin = n.origin) ∧
    (∀ r, (run sv (Coordinator.init lm s₀) evs).db.deposits.find? k = some r →
      r.processed = true → ∀ more : List Event,
        (run sv (Coordinator.init lm s₀) (evs ++ more)).db.deposits.find? k = some r ∧
        r ∉ (run sv (Coordinator.init lm s₀) (evs ++ more)).db.getPendingDeposits) := by
  refine ⟨Table.length_filter_key_le_one _ k, (run_depositOrigins sv lm s₀ evs hw k).2,
    fun r hr hp more => ?_⟩
  have hinv := run_depositSnapshotPending sv (depositSnapshotPending_init lm s₀) evs
  have hfin : (run sv (Coordinator.init lm s₀) (evs ++ more)).db.deposits.find? k = some r := by
    rw [run, List.foldl_append]
    exact run_processed_row sv hinv hr hp more
  exact ⟨hfin, fun hm => by simp [(Database.mem_getPendingDeposits.mp hm).2] at hp⟩

/-- The deposit is notified twice, once with another amount, and handled by one pass of
the loop. -/
def depositRun : List Event :=
  [.notifyDeposit .sample true, .tick .allOk,
    .notifyDeposit { DepositNotification.sample with amount := 99 } true, .tick .allOk]

theorem deposit_lifecycle_one_shot_sample :
    (∀ e ∈ depositRun, e.writesSucceed = true) ∧
    ((run Services.sample (Coordinator.init LiquidityManager.sample ()) depositRun).db.deposits.rows.filter
        fun r => r.depositId = "d1").length ≤ 1 ∧
    (∀ r, (run Services.sample (Coordinator.init LiquidityManager.sample ()) depositRun).db.deposits.find?
        "d1" = some r → ∃ n, firstDepositNotification "d1" depositRun = some n ∧ r.origin = n.origin) ∧
    (∀ r, (run Services.sample (Coordinator.init LiquidityManager.sample ()) depositRun).db.deposits.find?
        "d1" = some r → r.processed = true → ∀ more : List Event,
      (run Services.sample (Coordinator.init LiquidityManager.sample ()) (depositRun ++ more)).db.deposits.find?
        "d1" = some r ∧
      r ∉ (run Services.sample (Coordinator.init LiquidityManager.sample ())
        (depositRun ++ more)).db.getPendingDeposits) :=
  ⟨by decide, deposit_lifecycle_one_shot Services.sample LiquidityManager.sample () depositRun
    (by decide) "d1"⟩

/-! ### Notes and locks -/

/-- Whether the effect is the note of deposit `id`. -/
def Effect.isNoteOf (id : String) : Effect → Bool
  | .noteCreated i => i = id
  | _ => false

/-- Whether the effect is a lock for deposit `id`. -/
def Effect.isLockOf (id : String) : Effect → Bool
  | .locked i _ _ => i = id
  | _ => false

/-- Whether deposit `id` has a processed row. -/
def Database.depositProcessed (db : Database) (id : String) : Bool :=
  (db.deposits.find? id).any Deposit.processed

/-- A notification never inserts a processed row. -/
@[simp]
theorem notifyDepositHandler_depositProcessed (db : Database) (ok : Bool)
    (n : DepositNotification) (k : String) :
    (notifyDepositHandler db ok n).1.depositProcessed k = db.depositProcessed k := by
  rw [Database.depositProcessed, notifyDepositHandler_deposits]
  split
  · rename_i h
    obtain ⟨-, hn, rfl⟩ := h
    simp [Database.depositProcessed, hn, DepositNotification.toDeposit]
  · rfl

/-- **Note invariant.** Every deposit id has as many locks as notes in the log: one of each
if its row is processed, none otherwise. -/
def NotesMatchLocks (s : Coordinator σ) : Prop :=
  ∀ id, s.log.countP (Effect.isLockOf id) = s.log.countP (Effect.isNoteOf id) ∧
    s.log.countP (Effect.isNoteOf id) = if s.db.depositProcessed id then 1 else 0

theorem step_notesMatchLocks {s : Coordinator σ} (hsnap : DepositSnapshotPending s)
    (h : NotesMatchLocks s) {e : Event} (he : e.writesSucceed = true) :
    NotesMatchLocks (step sv s e) := by
  cases e with
  | notifyDeposit n ok => simpa [NotesMatchLocks, step] using h
  | notifyWithdrawal n now ok =>
    simpa [NotesMatchLocks, step, Database.depositProcessed, notifyWithdrawalHandler_deposits]
      using h
  | tick io =>
    obtain ⟨hs, hp⟩ : io.store = true ∧ io.pool = true := by simpa [Event.writesSucceed] using he
    simp only [step]
    unfold tickStep
    split
    case h_3 d ds hph =>
      obtain ⟨r, hr, hpr⟩ := hsnap.2 d (by simp [hph, Phase.pendingDeposits])
      rcases handleDeposit_of_writes sv hs hp d s with hd | ⟨key, nc, tx, hlog, hdb⟩
      · simpa only [hd] using h
      intro id
      have hid := h id
      simp only [hlog, hdb, List.countP_append, Database.depositProcessed,
        Database.withProcessed_deposits_find?] at hid ⊢
      by_cases hk : d.depositId = id
      · subst hk
        simp_all [Effect.isNoteOf, Effect.isLockOf, Deposit.markProcessed]
      · simpa [Effect.isNoteOf, Effect.isLockOf, hk] using hid
    case h_5 w ws _ =>
      rcases handleWithdrawal_log sv io w s with hl | ⟨key, a, hl⟩ <;> intro id <;>
        simpa [hl, handleWithdrawal_deposits, Database.depositProcessed, Effect.isNoteOf,
          Effect.isLockOf] using h id
    all_goals exact h

theorem run_notesMatchLocks (lm : LiquidityManager) (s₀ : σ) (evs : List Event)
    (hw : ∀ e ∈ evs, e.writesSucceed = true) :
    NotesMatchLocks (run sv (Coordinator.init lm s₀) evs) := by
  induction evs using List.reverseRecOn with
  | nil => exact fun id => by simp [Coordinator.init, Database.depositProcessed, Database.empty]
  | append_singleton evs e ih =>
    rw [run_append_singleton]
    exact step_notesMatchLocks sv
      (run_depositSnapshotPending sv (depositSnapshotPending_init lm s₀) evs)
      (ih fun e' he' => hw e' (by simp [he'])) (hw e (by simp))

/-- The deposit is notified, and the first pass handles it with the `mark_deposit_processed`
write failing; the next pass takes it again from `get_pending_deposits`. -/
def retryRun : List Event :=
  [.notifyDeposit .sample true, .tick .allOk, .tick ⟨true, false, true⟩, .tick .allOk,
    .tick .allOk, .tick .allOk, .tick .allOk]

/-- **The destination token is looked up by the source address.** For every case mapping,
every registry `load` builds and every deposit whose token address the file does not list on
the target chain, whatever representation the deposit's canonical token has there,
`handle_deposit` fails with `"Token not found in registry"` and changes nothing. -/
theorem handleDeposit_unlisted_on_target (cm : CaseMapping) (blake2b512 : Bytes → Bytes)
    (config : TokenConfig) (hreg : sv.registry = TokenRegistry.load cm blake2b512 config) (io : Io)
    (d : Deposit) (hd : (d.targetChainId, cm.toLowercase d.token) ∉ config.addressKeys cm)
    (s : Coordinator σ) :
    handleDeposit sv io d s = (s, .error "Token not found in registry") := by
  simp [handleDeposit, hreg, TokenRegistry.getTokenForChain_load_of_not_mem cm blake2b512 hd]

/-- A deposit of 1 USDC from Ethereum, at its Ethereum address, to Base. -/
def Deposit.usdcToBase : Deposit :=
  ⟨"d-usdc", 1, 8453, "0x5e", [1], "0xA0b86991c6218b36c1d19D4a2e9Eb0cE3606eB48", 1000000, [2],
    false, none, none, 0⟩

/-- Services with the test file's registry, hashed by the identity. -/
def Services.sampleRegistry : Services Unit :=
  ⟨TokenRegistry.load .ascii id .sample, Services.sample.shieldedPool, HashInput.message⟩

theorem handleDeposit_unlisted_on_target_sample :
    Services.sampleRegistry.registry = TokenRegistry.load .ascii id .sample ∧
    (Deposit.usdcToBase.targetChainId, CaseMapping.ascii.toLowercase Deposit.usdcToBase.token) ∉
      TokenConfig.sample.addressKeys .ascii ∧
    handleDeposit Services.sampleRegistry .allOk .usdcToBase
        (Coordinator.init LiquidityManager.sample ()) =
      (Coordinator.init LiquidityManager.sample (), .error "Token not found in registry") :=
  ⟨rfl, by decide, handleDeposit_unlisted_on_target Services.sampleRegistry .ascii id .sample rfl
    .allOk .usdcToBase (by decide) _⟩

/-- **USDC cannot be bridged from Ethereum to Base.** In the test file's registry, for every
hash, the deposit's token is USDC, whose representation on Base is listed; yet
`handle_deposit` fails with `"Token not found in registry"` on every state. -/
theorem usdc_deposit_not_resolved (blake2b512 : Bytes → Bytes) :
    (TokenRegistry.load .ascii blake2b512 .sample).getCanonicalId 1 Deposit.usdcToBase.token =
      some (computeCanonicalId .ascii blake2b512 "USDC") ∧
    (TokenRegistry.load .ascii blake2b512 .sample).getTokenById
        (computeCanonicalId .ascii blake2b512 "USDC") 8453 =
      .ok ⟨8453, "Base", "0x833589fCD6eDb6E08f4c7C32D4f71b54bdA02913", 6, false, none⟩ ∧
    ∀ (sv : Services σ), sv.registry = TokenRegistry.load .ascii blake2b512 .sample →
      ∀ (io : Io) (s : Coordinator σ),
        handleDeposit sv io .usdcToBase s = (s, .error "Token not found in registry") := by
  refine ⟨TokenRegistry.getCanonicalId_load_of_mem .ascii blake2b512 (by decide)
    (show TokenDefinition.usdc ∈ TokenConfig.sample.tokens by decide)
    (show (⟨1, "Ethereum", "0xA0b86991c6218b36c1d19D4a2e9Eb0cE3606eB48", none, false, none⟩ :
      TokenRepresentation) ∈ TokenDefinition.usdc.representations by decide) rfl, ?_,
    fun sv hreg io s => ?_⟩
  · simp [TokenRegistry.getTokenById, TokenRegistry.mappings_load, TokenConfig.mappingEntries,
      TokenConfig.sample, insertAll, TokenDefinition.toMappings, TokenDefinition.usdc]
    rfl
  · simp [handleDeposit, hreg, TokenRegistry.getTokenForChain_load_of_not_mem .ascii blake2b512
      (show (Deposit.usdcToBase.targetChainId, CaseMapping.ascii.toLowercase Deposit.usdcToBase.token)
        ∉ TokenConfig.sample.addressKeys .ascii by decide)]

end ZeroBridge
