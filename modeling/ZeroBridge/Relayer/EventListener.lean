import ZeroBridge.Relayer.CoordinatorClient
import ZeroBridge.Relayer.TransactionExecutor

/-!
# The EVM deposit listener

`EvmEventListener::handle_tokens_locked` (`relayer/src/event_listener.rs`) turns a
`TokensLocked` log into the `DepositNotification` it posts to the coordinator: the deposit id,
the sender and the token from the indexed topics 1 to 3, and the amount, the target chain, the
recipient and the Zcash address from the fixed slices `[0..8]`, `[8..16]`, `[16..48]` and
`[48..80]` of the data. A topic that is not there, or a slice past the end of the data, panics
(`Outcome.panic`), and `listen_loop` has no other guard.

A log's data is the ABI encoding of the event's arguments that are not indexed: five 32-byte
big-endian words (`tokensLockedData`, from the documented format), and an indexed address is a
topic of 12 zero bytes and the address (`Address.topic`).

**Decoder against encoding** (`tokens_locked_decode`): the handler panics exactly on the logs
with fewer than four topics or fewer than 80 bytes of data, so it never returns `Err` for a
log too short to decode, and it reads data shorter than the five words once it has 80 bytes.
On every encoded log with a `u64` amount and target chain it keeps the deposit id, the sender
and the token, but reads amount and target chain from the high bytes of the amount's word,
which are zero, and recipient and Zcash address across the words' boundaries
(`deposit_amount_read_as_zero`).
-/

namespace ZeroBridge

/-- `H256`: a 32-byte word, such as a log topic. -/
structure H256 where
  bytes : Bytes
  length_eq : bytes.length = 32
  deriving DecidableEq, Repr

/-- `Address`: 20 bytes. -/
structure Address where
  bytes : Bytes
  length_eq : bytes.length = 20
  deriving DecidableEq, Repr

/-- What `handle_tokens_locked` reads of an `ethers` `Log`: its topics and its data. -/
structure Log where
  topics : List H256
  data : Bytes
  deriving DecidableEq, Repr

/-- The notification `handle_tokens_locked` builds from a log, stamped with the wall-clock
second `timestamp`; `none` where it panics. -/
def tokensLockedNotification (sourceChainId : UInt64) (log : Log) (timestamp : UInt64) :
    Option CoordinatorClient.DepositNotification := do
  let depositId ← log.topics[1]?
  let sender ← log.topics[2]?
  let token ← log.topics[3]?
  let amount ← slice log.data 0 8
  let targetChainId ← slice log.data 8 16
  let recipient ← slice log.data 16 48
  let zcashAddress ← slice log.data 48 80
  pure ⟨hexEncode depositId.bytes, sourceChainId, UInt64.ofNat (beNat targetChainId),
    "0x" ++ hexEncode (sender.bytes.drop 12), "0x" ++ hexEncode (token.bytes.drop 12),
    UInt64.ofNat (beNat amount), recipient, zcashAddress, timestamp⟩

/-- `handle_tokens_locked`: decode the log, then post the notification and gossip
`DEPOSIT_NOTIFIED`; `notifyOk` and `broadcastOk` are the outcomes of the two calls. -/
def handleTokensLocked (sourceChainId : UInt64) (log : Log) (timestamp : UInt64)
    (notifyOk broadcastOk : Bool) : Outcome Unit :=
  match tokensLockedNotification sourceChainId log timestamp with
  | none => .panic
  | some _ => if notifyOk && broadcastOk then .ok () else .err

/-- The decoder panics exactly on logs with fewer than four topics or 80 bytes of data. -/
theorem tokensLockedNotification_eq_none_iff (sourceChainId : UInt64) (log : Log)
    (timestamp : UInt64) :
    tokensLockedNotification sourceChainId log timestamp = none ↔
      log.topics.length < 4 ∨ log.data.length < 80 := by
  by_cases ht : log.topics.length < 4
  · have h3 : log.topics[3]? = none := List.getElem?_eq_none (by omega)
    simp [tokensLockedNotification, h3, ht]
  by_cases hl : log.data.length < 80
  · have h48 : slice log.data 48 80 = none := (slice_eq_none_iff (by omega)).mpr hl
    simp [tokensLockedNotification, h48, hl]
  · simp (disch := omega) [tokensLockedNotification, slice_of_le, List.getElem?_eq_getElem, ht, hl]

/-! ### The event's encoding -/

/-- Modelled from the spec: the data of a `TokensLocked` log, the ABI encoding of its
arguments that are not indexed, `(uint256 amount, uint64 target_chain_id, bytes32 recipient,
bytes32 zcash_address, uint256 timestamp)`, as five 32-byte big-endian words. -/
def tokensLockedData (amount targetChainId : Nat) (recipient zcashAddress : H256)
    (timestamp : Nat) : Bytes :=
  toBeBytes 32 amount ++ toBeBytes 32 targetChainId ++ recipient.bytes ++ zcashAddress.bytes ++
    toBeBytes 32 timestamp

/-- Modelled from the spec: an indexed address as a topic, 12 zero bytes and the address. -/
def Address.topic (a : Address) : H256 :=
  ⟨List.replicate 12 0 ++ a.bytes, by simp [a.length_eq]⟩

/-- Modelled from the spec: a `TokensLocked` log, with the event's signature hash as topic 0
and the indexed `deposit_id`, `sender` and `token` as topics 1 to 3. -/
def tokensLockedLog (signature depositId : H256) (sender token : Address)
    (amount targetChainId : Nat) (recipient zcashAddress : H256) (timestamp : Nat) : Log :=
  ⟨[signature, depositId, sender.topic, token.topic],
    tokensLockedData amount targetChainId recipient zcashAddress timestamp⟩

/-- What the decoder reads from an encoded log with a `u64` amount and target chain. -/
theorem tokensLockedNotification_log (sourceChainId : UInt64) (signature depositId : H256)
    (sender token : Address) {amount targetChainId : Nat} (ha : amount < 2 ^ 64)
    (ht : targetChainId < 2 ^ 64) (recipient zcashAddress : H256) (time : Nat)
    (timestamp : UInt64) :
    tokensLockedNotification sourceChainId (tokensLockedLog signature depositId sender token amount
      targetChainId recipient zcashAddress time) timestamp =
      some ⟨hexEncode depositId.bytes, sourceChainId, 0, "0x" ++ hexEncode sender.bytes,
        "0x" ++ hexEncode token.bytes, 0, toBeBytes 16 amount ++ List.replicate 16 0,
        toBeBytes 16 targetChainId ++ recipient.bytes.take 16, timestamp⟩ := by
  have ha' : amount < 256 ^ 8 := by simpa using ha
  have ht' : targetChainId < 256 ^ 8 := by simpa using ht
  have hA : toBeBytes 32 amount = List.replicate 24 0 ++ toBeBytes 8 amount := toBeBytes_of_lt ha'
  have hA16 : toBeBytes 16 amount = List.replicate 8 0 ++ toBeBytes 8 amount := toBeBytes_of_lt ha'
  have hT : toBeBytes 32 targetChainId = List.replicate 24 0 ++ toBeBytes 8 targetChainId :=
    toBeBytes_of_lt ht'
  have hT16 : toBeBytes 16 targetChainId = List.replicate 8 0 ++ toBeBytes 8 targetChainId :=
    toBeBytes_of_lt ht'
  have hlen : 80 ≤ (tokensLockedData amount targetChainId recipient zcashAddress time).length := by
    simp [tokensLockedData, recipient.length_eq, zcashAddress.length_eq]
  simp (disch := omega) only [tokensLockedNotification, tokensLockedLog, slice_of_le]
  simp only [Address.topic, List.getElem?_cons_succ, List.getElem?_cons_zero, tsub_zero,
    tokensLockedData, hA, hT, List.append_assoc, List.drop_append_eq_append_drop,
    List.drop_replicate, List.length_replicate, zero_le, Nat.sub_eq_zero_of_le, List.drop_zero,
    length_toBeBytes, recipient.length_eq, zcashAddress.length_eq, List.take_append_eq_append_take,
    List.take_replicate, Nat.reduceLeDiff, inf_of_le_left, List.take_zero, List.replicate_zero,
    List.append_nil, Nat.reduceSub, List.take_of_length_le, List.drop_eq_nil_of_le, List.nil_append,
    Option.pure_def, Option.bind_eq_bind, Option.some_bind, beNat_replicate_zero, UInt64.reduceOfNat,
    List.drop_left', hA16, hT16]

/-- **Decoder against encoding.** For every source chain and clock reading:
`handle_tokens_locked` panics exactly on the logs with fewer than four topics or fewer than 80
bytes of data, whatever the network calls return, so it returns `Err` for no log it cannot
decode, and it decodes data shorter than the event's five words once it has 80 bytes. On every
`TokensLocked` log encoded by the ABI with a `u64` amount and target chain, the notification
it builds has the log's deposit id, sender and token, but amount `0` and target chain `0`,
read from the high bytes of the amount's word; as recipient, the amount's 16 low bytes and 16
zero bytes; and as Zcash address, the target chain's 16 low bytes and the recipient's first
16. -/
theorem tokens_locked_decode (sourceChainId timestamp : UInt64) :
    (∀ log notifyOk broadcastOk,
      handleTokensLocked sourceChainId log timestamp notifyOk broadcastOk = .panic ↔
        log.topics.length < 4 ∨ log.data.length < 80) ∧
    ∀ signature depositId sender token amount targetChainId recipient zcashAddress time,
      amount < 2 ^ 64 → targetChainId < 2 ^ 64 →
      tokensLockedNotification sourceChainId (tokensLockedLog signature depositId sender token
        amount targetChainId recipient zcashAddress time) timestamp =
        some ⟨hexEncode depositId.bytes, sourceChainId, 0, "0x" ++ hexEncode sender.bytes,
          "0x" ++ hexEncode token.bytes, 0, toBeBytes 16 amount ++ List.replicate 16 0,
          toBeBytes 16 targetChainId ++ recipient.bytes.take 16, timestamp⟩ := by
  refine ⟨fun log notifyOk broadcastOk => ?_, fun signature depositId sender token _ _ recipient
    zcashAddress time ha ht => tokensLockedNotification_log sourceChainId signature depositId
      sender token ha ht recipient zcashAddress time timestamp⟩
  rw [← tokensLockedNotification_eq_none_iff sourceChainId log timestamp, handleTokensLocked]
  cases tokensLockedNotification sourceChainId log timestamp <;> simp [ite_eq_iff]

/-- A 32-byte word of one repeated byte. -/
def H256.fill (b : UInt8) : H256 := ⟨List.replicate 32 b, List.length_replicate _ _⟩

/-- An address of one repeated byte. -/
def Address.fill (b : UInt8) : Address := ⟨List.replicate 20 b, List.length_replicate _ _⟩

/-- **A deposit of 5 reads as 0.** A `TokensLocked` log of 5 units to Base, encoded by the
ABI, is notified with amount `0` and target chain `0`; and a log without its token topic
panics the listener rather than returning `Err`. -/
theorem deposit_amount_read_as_zero :
    (tokensLockedNotification 1 (tokensLockedLog (.fill 0) (.fill 1) (.fill 2) (.fill 3) 5 8453
      (.fill 4) (.fill 5) 0) 0).map (fun n => (n.amount, n.targetChainId)) = some (0, 0) ∧
    handleTokensLocked 1 ⟨[.fill 0, .fill 1, (Address.fill 2).topic], []⟩ 0 true true = .panic := by
  refine ⟨?_, rfl⟩
  rw [tokensLockedNotification_log 1 _ _ _ _ (by norm_num) (by norm_num)]
  rfl

end ZeroBridge
