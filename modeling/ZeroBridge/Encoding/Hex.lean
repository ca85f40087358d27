import ZeroBridge.Encoding.Bytes

/-!
# Hex text

The gateways and the coordinator move byte strings through text with the `hex` crate:
`hex::encode` writes two lower-case digits per byte, and `hex::decode` reads digits of
either case and fails on an odd length or a non-digit. `hexDecode_hexEncode` is the round
trip the NEAR gateway relies on when it stores `hex::encode(&nullifier)` and later
decodes it to look the nullifier up. The converse fails: `hexDecode` identifies the
upper- and lower-case spellings of one byte string.
-/

namespace ZeroBridge

/-- The lower-case hex digit of a value below 16. -/
def hexDigit (n : Nat) : Char :=
  if n < 10 then Char.ofNat (48 + n) else Char.ofNat (87 + n)

/-- `hex::encode`: two lower-case digits per byte, high nibble first. -/
def hexEncode (b : Bytes) : String :=
  String.mk (b.flatMap fun x => [hexDigit (x.toNat / 16), hexDigit (x.toNat % 16)])

/-- The value of a hex digit of either case. -/
def hexValue (c : Char) : Option Nat :=
  if '0' ≤ c ∧ c ≤ '9' then some (c.toNat - 48)
  else if 'a' ≤ c ∧ c ≤ 'f' then some (c.toNat - 87)
  else if 'A' ≤ c ∧ c ≤ 'F' then some (c.toNat - 55)
  else none

/-- `hex::decode` on the characters of a string. -/
def hexDecodeChars : List Char → Option Bytes
  | [] => some []
  | [_] => none
  | hi :: lo :: rest => do
    let a ← hexValue hi
    let b ← hexValue lo
    let r ← hexDecodeChars rest
    pure (UInt8.ofNat (a * 16 + b) :: r)

/-- `hex::decode`. -/
def hexDecode (s : String) : Option Bytes := hexDecodeChars s.data

theorem hexValue_hexDigit : ∀ n < 16, hexValue (hexDigit n) = some n := by
  decide

/-- A byte is rebuilt from its two nibbles. -/
private theorem ofNat_nibbles (x : UInt8) : UInt8.ofNat (x.toNat / 16 * 16 + x.toNat % 16) = x :=
  UInt8.eq_of_val_eq (Fin.ext (show (UInt8.ofNat _).toNat = x.toNat by
    rw [Nat.mul_comm, Nat.div_add_mod]; exact UInt8.toNat_ofNat_of_lt x.toNat_lt_size))

/-- Decoding the two digits of one byte gives that byte back. -/
private theorem hexDecodeChars_digits (x : UInt8) (rest : List Char) :
    hexDecodeChars (hexDigit (x.toNat / 16) :: hexDigit (x.toNat % 16) :: rest) =
      (hexDecodeChars rest).map (x :: ·) := by
  have hx : x.toNat < 256 := x.toNat_lt_size
  simp only [hexDecodeChars, hexValue_hexDigit _ (by omega : x.toNat / 16 < 16),
    hexValue_hexDigit _ (by omega : x.toNat % 16 < 16), ofNat_nibbles, Option.pure_def,
    Option.bind_eq_bind, Option.some_bind]
  cases hexDecodeChars rest <;> rfl

@[simp]
theorem hexDecode_hexEncode (b : Bytes) : hexDecode (hexEncode b) = some b := by
  simp only [hexDecode, hexEncode]
  induction b with
  | nil => rfl
  | cons x b ih => rw [List.flatMap_cons, List.cons_append, List.cons_append, List.nil_append,
      hexDecodeChars_digits, ih, Option.map_some']

/-- Hex text tells byte strings apart. -/
theorem hexEncode_injective : Function.Injective hexEncode := fun a b h =>
  Option.some.inj ((hexDecode_hexEncode a).symm.trans (h ▸ hexDecode_hexEncode b))

@[simp]
theorem length_hexEncode (b : Bytes) : (hexEncode b).length = 2 * b.length := by
  simp only [hexEncode, String.length]
  induction b with
  | nil => rfl
  | cons x b ih => simp [ih]; omega

end ZeroBridge
