import ZeroBridge.Coordinator.Engine
import ZeroBridge.Gateway.Near
import ZeroBridge.Gateway.Osmosis
import ZeroBridge.Gateway.Solana

/-!
# The coordinator and the three gateways

What the components must agree on, and what each gateway keeps on its own.

* **The signed digest.** `generate_withdrawal_signature` hashes, with SHA-256,
  `withdrawal_id ‖ recipient ‖ token ‖ amount.to_le_bytes() (u64) ‖ nullifier`. No gateway
  rebuilds that input (`signed_digest_not_verified`): NEAR and Solana hash with
  Keccak-256; the Osmosis contract hashes with SHA-256, but writes the amount as decimal
  text and the nullifier as its 64 characters of hex, so for every amount its byte string
  is another one (`toLeBytes_append_ne_asBytes_toString`). Each digest is compared as a
  `HashInput`: the function applied and the bytes it is applied to.
* **Custody.** Each gateway, alone, conserves what it holds (`gateway_custody_conserved`),
  from the per-gateway run lemmas `Near.run_custody`, `Osmosis.run_custody` and
  `Solana.run_custody`. What leaves a gateway is what it records
  (`gateway_payouts_recorded`): the transfers of a run add up to the withdrawal total, so
  every deposited unit is either still locked or paid out, Osmosis's emergency withdrawal
  apart.
* **Authorization.** No gateway checks a signature against the coordinator's key
  (`execution_ignores_coordinator_key`): NEAR accepts every 65-byte signature alike, the
  Osmosis check reads only the signature's format, so a signature that passes for one
  withdrawal passes for all, and Solana executes nothing. A NEAR withdrawal executes with 65
  zero bytes as its signature (`zero_signature_executes`).
-/

namespace ZeroBridge

/-! ### The signed digest -/

/-- The coordinator's signing input is a SHA-256 input. -/
@[simp]
theorem signingInput_fn (withdrawalId recipient token : String) (amount : Nat) (nullifier : Bytes) :
    (signingInput withdrawalId recipient token amount nullifier).fn = .sha256 := rfl

/-- **The signed digest is never the verified one.** For every withdrawal the coordinator
signs: NEAR and Solana verify a Keccak-256 digest, whatever the request; and for every
request the Osmosis contract accepts, whose nullifier is 64 bytes of text, the coordinator's
nullifier of at most 64 bytes (the 32-byte value, or the text's own bytes) leaves the two
byte strings different, as the coordinator writes the amount in 8 little-endian bytes and
the contract in decimal. -/
theorem signed_digest_not_verified (withdrawalId recipient token : String) (amount : Nat)
    (nullifier : Bytes) :
    (∀ request : Near.WithdrawalRequestInfo,
      signingInput withdrawalId recipient token amount nullifier ≠
        ⟨.keccak256, Near.verifyMessage withdrawalId request⟩) ∧
    (∀ (withdrawalId' recipient' nullifier' : Solana.Bytes32) (amount' : Nat),
      signingInput withdrawalId recipient token amount nullifier ≠
        ⟨.keccak256, Solana.verifyMessage withdrawalId' recipient' amount' nullifier'⟩) ∧
    (∀ (host : Osmosis.Host) (s : Osmosis.State) (time : Nat) (info : Osmosis.MessageInfo)
      (nullifierText merkleRoot : String) (r : Osmosis.State × List Osmosis.Transfer),
      Osmosis.executeRequestWithdrawal host s time info token amount nullifierText merkleRoot =
        .ok r → nullifier.length ≤ 64 →
      signingInput withdrawalId recipient token amount nullifier ≠
        ⟨.sha256, Osmosis.verifyMessage withdrawalId recipient token amount nullifierText⟩) := by
  refine ⟨fun _ h => (nomatch congrArg HashInput.fn h), fun _ _ _ _ h =>
    (nomatch congrArg HashInput.fn h), fun host s time info nullifierText merkleRoot r hr hn h => ?_⟩
  have h64 := Osmosis.executeRequestWithdrawal_nullifier hr
  have hm := congrArg HashInput.message h
  simp only [signingInput, Osmosis.verifyMessage, List.append_assoc,
    List.append_cancel_left_eq] at hm
  exact toLeBytes_append_ne_asBytes_toString amount (by omega) hm

/-- A withdrawal of 1 OSMO to `user` whose nullifier is the 32 bytes `0xaa…aa`, which the
contract stores as 64 characters of hex: the coordinator signs 51 bytes, the contract
hashes 82. -/
theorem osmosis_digest_mismatch :
    hexDecode (Osmosis.hex64 'a') = some (List.replicate 32 0xaa) ∧
    (signingInput "w1" "user" Osmosis.uosmo 1000000 (List.replicate 32 0xaa)).message.length =
      51 ∧
    (Osmosis.verifyMessage "w1" "user" Osmosis.uosmo 1000000 (Osmosis.hex64 'a')).length = 82 ∧
    signingInput "w1" "user" Osmosis.uosmo 1000000 (List.replicate 32 0xaa) ≠
      ⟨.sha256, Osmosis.verifyMessage "w1" "user" Osmosis.uosmo 1000000 (Osmosis.hex64 'a')⟩ := by
  decide

/-- The Osmosis request above is one the contract accepts, and the coordinator's nullifier,
its 32-byte value, is at most 64 bytes. -/
theorem signed_digest_not_verified_osmosis :
    ∃ r, Osmosis.executeRequestWithdrawal Osmosis.Host.sample
        (Osmosis.State.init "owner" "coordinator") 2 ⟨"user", []⟩ Osmosis.uosmo 1000000
        (Osmosis.hex64 'a') (Osmosis.hex64 '0') = .ok r ∧
      (List.replicate 32 (0xaa : UInt8)).length ≤ 64 ∧
      signingInput "w1" "user" Osmosis.uosmo 1000000 (List.replicate 32 0xaa) ≠
        ⟨.sha256, Osmosis.verifyMessage "w1" "user" Osmosis.uosmo 1000000 (Osmosis.hex64 'a')⟩ := by
  obtain ⟨r, hr⟩ : ∃ r, Osmosis.executeRequestWithdrawal Osmosis.Host.sample
      (Osmosis.State.init "owner" "coordinator") 2 ⟨"user", []⟩ Osmosis.uosmo 1000000
      (Osmosis.hex64 'a') (Osmosis.hex64 '0') = .ok r :=
    Except.exists_eq_ok_of_isOk (by decide)
  exact ⟨r, hr, by decide, (signed_digest_not_verified "w1" "user" Osmosis.uosmo 1000000
    (List.replicate 32 0xaa)).2.2 _ _ _ _ _ _ r hr (by decide)⟩

/-! ### Custody at each gateway -/

/-- **Custody at each gateway.** In every state reachable by any sequence of calls, failed
ones reverting: at NEAR, from `new`, and at Osmosis, from the storage `instantiate` saves,
the locked balance of the native token plus the withdrawal total is the deposit total,
every other token's locked balance is zero, and so the withdrawal total is at most the
deposit total (at NEAR, `get_stats`'s subtraction does not underflow); at Solana, from
`initialize`, `total_locked + total_withdrawn` is the sum of the amounts of all deposit
accounts. -/
theorem gateway_custody_conserved :
    (∀ (host : Near.Host) (owner coordinator : String) (calls : List Near.Call),
      let g := Near.run host (Near.new owner coordinator) calls
      (g.lockedBalances Near.nearToken).getD 0 + g.totalWithdrawals = g.totalDeposits ∧
        (∀ t, t ≠ Near.nearToken → (g.lockedBalances t).getD 0 = 0) ∧
        g.totalWithdrawals ≤ g.totalDeposits ∧
        Near.sub g.totalDeposits g.totalWithdrawals = .ok (g.totalDeposits - g.totalWithdrawals)) ∧
    (∀ (host : Osmosis.Host) (sender coordinator : String) (calls : List Osmosis.Call),
      let s := Osmosis.run host (Osmosis.State.init sender coordinator) calls
      (s.lockedBalances Osmosis.uosmo).getD 0 + s.totalWithdrawals = s.totalDeposits ∧
        (∀ t, t ≠ Osmosis.uosmo → (s.lockedBalances t).getD 0 = 0) ∧
        s.totalWithdrawals ≤ s.totalDeposits) ∧
    (∀ (host : Solana.Host) (authority coordinator : Solana.Bytes32)
      (calls : List (Int × Solana.Instruction)),
      let p := Solana.run host (Solana.genesis authority coordinator) calls
      p.gateway.totalLocked + p.gateway.totalWithdrawn = Solana.depositedTotal p) := by
  refine ⟨fun host owner coordinator calls => ?_, fun host sender coordinator calls => ?_,
    fun host authority coordinator calls => (@Solana.run_custody host authority coordinator calls).1.1⟩
  · obtain ⟨hu, ht⟩ := @Near.run_custody host owner coordinator calls
    have hle : _ ≤ _ := hu ▸ Nat.le_add_left _ _
    exact ⟨hu, ht, hle, by simp [Near.sub, checkedSub, hle]⟩
  · obtain ⟨hu, ht⟩ := @Osmosis.run_custody host sender coordinator calls
    exact ⟨hu, ht, hu ▸ Nat.le_add_left _ _⟩

/-- **Every deposited unit is locked or paid out.** Along every run from a gateway's initial
state, failing calls reverting: at NEAR, the amounts of the transfer promises the calls
return add up to the withdrawal total, and with the native token's locked balance to the
deposit total. At Osmosis the same holds of the bank and CW20 messages of the responses,
when no transaction is an emergency withdrawal: the owner's entry point that sends funds
without recording them. -/
theorem gateway_payouts_recorded :
    (∀ (host : Near.Host) (owner coordinator : String) (calls : List Near.Call),
      Near.paidOut host (Near.new owner coordinator) calls =
          (Near.run host (Near.new owner coordinator) calls).totalWithdrawals ∧
        Near.paidOut host (Near.new owner coordinator) calls +
            ((Near.run host (Near.new owner coordinator) calls).lockedBalances
              Near.nearToken).getD 0 =
          (Near.run host (Near.new owner coordinator) calls).totalDeposits) ∧
    (∀ (host : Osmosis.Host) (sender coordinator : String) (calls : List Osmosis.Call),
      (∀ c ∈ calls, ∀ token dest amount, c.msg ≠ .emergencyWithdraw token dest amount) →
      ((Osmosis.transfers host (Osmosis.State.init sender coordinator) calls).map
          Osmosis.Transfer.amount).sum =
          (Osmosis.run host (Osmosis.State.init sender coordinator) calls).totalWithdrawals ∧
        ((Osmosis.transfers host (Osmosis.State.init sender coordinator) calls).map
            Osmosis.Transfer.amount).sum +
            ((Osmosis.run host (Osmosis.State.init sender coordinator) calls).lockedBalances
              Osmosis.uosmo).getD 0 =
          (Osmosis.run host (Osmosis.State.init sender coordinator) calls).totalDeposits) := by
  refine ⟨fun host owner coordinator calls => ?_, fun host sender coordinator calls hno => ?_⟩
  · have hp := @Near.paidOut_add host (Near.new owner coordinator) calls
    obtain ⟨hu, -⟩ := @Near.run_custody host owner coordinator calls
    have h0 : (Near.new owner coordinator).totalWithdrawals = 0 := rfl
    omega
  · have ht := @Osmosis.transfers_sum host (Osmosis.State.init sender coordinator) calls hno
    obtain ⟨hu, -⟩ := @Osmosis.run_custody host sender coordinator calls
    have h0 : (Osmosis.State.init sender coordinator).totalWithdrawals = 0 := rfl
    omega

/-! ### Coordinator authorization -/

/-- **No gateway checks the coordinator's key.** At NEAR, any two 65-byte signatures give the
same outcome of `execute_withdrawal`, on every state and for every withdrawal. At Osmosis,
any two signatures that pass the format check, each for some message, give the same outcome,
on every state and for every withdrawal. Solana's `execute_withdrawal` fails on every
reachable state, whatever the signature. -/
theorem execution_ignores_coordinator_key :
    (∀ (host : Near.Host) (g : Near.NEARGateway) (withdrawalId : String) (sig sig' : Bytes),
      sig.length = 65 → sig'.length = 65 →
      Near.executeWithdrawal host g withdrawalId sig = Near.executeWithdrawal host g withdrawalId sig') ∧
    (∀ (host : Osmosis.Host) (s : Osmosis.State) (withdrawalId sig sig' : String),
      (∃ id recipient token amount nullifier,
        Osmosis.verifyCoordinatorSignature host id recipient token amount nullifier sig = .ok ()) →
      (∃ id recipient token amount nullifier,
        Osmosis.verifyCoordinatorSignature host id recipient token amount nullifier sig' = .ok ()) →
      Osmosis.executeExecuteWithdrawal host s withdrawalId sig =
        Osmosis.executeExecuteWithdrawal host s withdrawalId sig') ∧
    (∀ (host : Solana.Host) (authority coordinator : Solana.Bytes32)
      (calls : List (Int × Solana.Instruction)) (time : Int) (withdrawalId : Solana.Bytes32)
      (sig : Bytes) (transferOk : Bool),
      Solana.executeWithdrawal host (Solana.run host (Solana.genesis authority coordinator) calls) time
        withdrawalId sig transferOk = .error (.account "AccountNotInitialized")) := by
  refine ⟨fun host g withdrawalId sig sig' h h' => ?_, fun host s withdrawalId sig sig' h h' => ?_,
    fun host authority coordinator calls => (@Solana.run_custody host authority coordinator calls).2⟩
  · have hv : ∀ request, Near.verifyCoordinatorSignature host withdrawalId request sig =
        Near.verifyCoordinatorSignature host withdrawalId request sig' := fun _ => by
      simp [Near.verifyCoordinatorSignature, h, h']
    simp only [Near.executeWithdrawal, hv]
  · obtain ⟨i, r, t, a, n, h⟩ := h
    obtain ⟨i', r', t', a', n', h'⟩ := h'
    have hv : ∀ i r t a n, Osmosis.verifyCoordinatorSignature host i r t a n sig =
        Osmosis.verifyCoordinatorSignature host i r t a n sig' := fun _ _ _ _ _ =>
      h.trans h'.symm
    simp only [Osmosis.executeExecuteWithdrawal, hv]

/-- A NEAR runtime whose two hashes return their input. -/
def Near.Host.sample : Near.Host := ⟨id, id⟩

/-- `alice` deposits 1 NEAR; `bob` requests a withdrawal of 0.1 NEAR. -/
def Near.sampleCalls : List Near.Call :=
  [⟨⟨"alice", 1000000000000000000000000, 0⟩, .deposit 1 (List.replicate 32 1) (List.replicate 32 2)⟩,
    ⟨⟨"bob", 0, 5⟩, .requestWithdrawal "near" 100000000000000000000000 (List.replicate 32 7) []
      (List.replicate 32 0)⟩]

/-- The id `generate_withdrawal_id` gives `bob`'s request in the sample run. -/
def Near.bobWithdrawalId : String :=
  Near.generateWithdrawalId Near.Host.sample
    (Near.run Near.Host.sample (Near.new "owner" "coordinator") (Near.sampleCalls.take 1))
    "bob" "near" 100000000000000000000000 (List.replicate 32 7)

/-- Executing `bob`'s stored request with 65 zero bytes and with 65 bytes of `0x01` gives one
outcome, the payout of 0.1 NEAR to `bob`. -/
theorem execution_ignores_coordinator_key_sample :
    (List.replicate 65 (0 : UInt8)).length = 65 ∧ (List.replicate 65 (1 : UInt8)).length = 65 ∧
    Near.executeWithdrawal Near.Host.sample
        (Near.run Near.Host.sample (Near.new "owner" "coordinator") Near.sampleCalls)
        Near.bobWithdrawalId (List.replicate 65 0) =
      Near.executeWithdrawal Near.Host.sample
        (Near.run Near.Host.sample (Near.new "owner" "coordinator") Near.sampleCalls)
        Near.bobWithdrawalId (List.replicate 65 1) ∧
    (Near.executeWithdrawal Near.Host.sample
        (Near.run Near.Host.sample (Near.new "owner" "coordinator") Near.sampleCalls)
        Near.bobWithdrawalId (List.replicate 65 1)).toOption.map Prod.snd =
      some (.transfer "bob" 100000000000000000000000) :=
  ⟨rfl, rfl, execution_ignores_coordinator_key.1 _ _ _ _ _ rfl rfl, by decide⟩

/-- **Sixty-five zero bytes authorize a withdrawal.** After the deposit and the request,
`execute_withdrawal` of `bob`'s request with a signature of 65 zero bytes, which no
coordinator key produced, transfers the 0.1 NEAR to `bob`. -/
theorem zero_signature_executes :
    ((Near.executeWithdrawal Near.Host.sample
      (Near.run Near.Host.sample (Near.new "owner" "coordinator") Near.sampleCalls)
      (Near.generateWithdrawalId Near.Host.sample
        (Near.run Near.Host.sample (Near.new "owner" "coordinator") (Near.sampleCalls.take 1))
        "bob" "near" 100000000000000000000000 (List.replicate 32 7))
      (List.replicate 65 0)).toOption.map Prod.snd) =
      some (.transfer "bob" 100000000000000000000000) := by
  decide

/-! ### The signed pre-images -/

/-- **The signed pre-images do not determine their fields.** The coordinator's signing input
and the Osmosis contract's message are concatenations without delimiters. For every tuple,
moving the end of the withdrawal id to the front of the recipient, or the end of the
recipient to the front of the token, gives another tuple with the same byte string, on both
sides. What the coordinator's input does determine is the tuple once the lengths of its text
fields are fixed: equal inputs of `u64` amounts, with equally long id, recipient and token,
come from equal fields. -/
theorem preimage_fields_shift :
    (∀ (withdrawalId recipient token s : String) (amount : Nat) (nullifier : Bytes),
      signingInput (withdrawalId ++ s) recipient token amount nullifier =
        signingInput withdrawalId (s ++ recipient) token amount nullifier ∧
      signingInput withdrawalId (recipient ++ s) token amount nullifier =
        signingInput withdrawalId recipient (s ++ token) amount nullifier) ∧
    (∀ (withdrawalId recipient token s : String) (amount : Nat) (nullifier : String),
      Osmosis.verifyMessage (withdrawalId ++ s) recipient token amount nullifier =
        Osmosis.verifyMessage withdrawalId (s ++ recipient) token amount nullifier ∧
      Osmosis.verifyMessage withdrawalId (recipient ++ s) token amount nullifier =
        Osmosis.verifyMessage withdrawalId recipient (s ++ token) amount nullifier) ∧
    ∀ (withdrawalId recipient token withdrawalId' recipient' token' : String) (amount amount' : Nat)
      (nullifier nullifier' : Bytes),
      (asBytes withdrawalId).length = (asBytes withdrawalId').length →
      (asBytes recipient).length = (asBytes recipient').length →
      (asBytes token).length = (asBytes token').length → amount < 2 ^ 64 → amount' < 2 ^ 64 →
      signingInput withdrawalId recipient token amount nullifier =
        signingInput withdrawalId' recipient' token' amount' nullifier' →
      asBytes withdrawalId = asBytes withdrawalId' ∧ asBytes recipient = asBytes recipient' ∧
        asBytes token = asBytes token' ∧ amount = amount' ∧ nullifier = nullifier' := by
  refine ⟨fun _ _ _ _ _ _ => ⟨?_, ?_⟩, fun _ _ _ _ _ _ => ⟨?_, ?_⟩,
    fun _ _ _ _ _ _ _ _ _ _ hid hrec htok ha ha' h => ?inj⟩
  case inj =>
    have hm := congrArg HashInput.message h
    simp only [signingInput, List.append_assoc] at hm
    obtain ⟨h1, hm⟩ := List.append_inj hm hid
    obtain ⟨h2, hm⟩ := List.append_inj hm hrec
    obtain ⟨h3, hm⟩ := List.append_inj hm htok
    obtain ⟨h4, h5⟩ := List.append_inj hm (by simp [length_toLeBytes])
    exact ⟨h1, h2, h3, toLeBytes_inj (by simpa using ha) (by simpa using ha') h4, h5⟩
  all_goals simp [signingInput, Osmosis.verifyMessage]

/-- **One authorization, two withdrawals.** The coordinator's signing input for 48 units of
token `T` with nullifier `[1, 9]` is also the one for `2 ^ 56` units of token `T0` with
nullifier `[9]`: the amount's first byte is the character `0`. The Osmosis message for 100
units with nullifier `ab` is also the one for 10 units with nullifier `0ab`. -/
theorem preimage_collisions :
    signingInput "w1" "0xab" "T" 48 [1, 9] = signingInput "w1" "0xab" "T0" (2 ^ 56) [9] ∧
    Osmosis.verifyMessage "w1" "osmo1r" "uosmo" 100 "ab" =
      Osmosis.verifyMessage "w1" "osmo1r" "uosmo" 10 "0ab" :=
  ⟨by decide, by decide⟩

end ZeroBridge
