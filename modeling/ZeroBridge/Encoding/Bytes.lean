import Mathlib.Data.List.Basic
import Mathlib.Data.Nat.Defs
import Mathlib.Data.UInt
import Mathlib.Data.Nat.Digits
import Mathlib.Algebra.Order.Ring.Nat

/-!
# Byte strings and the encodings the components share

`Bytes` is the `Vec<u8>` of the source. Every digest the bridge computes is a hash of a
concatenation of `as_bytes()` of strings, `to_le_bytes()` of fixed-width integers, and
raw byte strings; `asBytes` and `toLeBytes` are those two encoders.

A hash is not computed here. What two components must agree on is *which* function they
apply to *which* byte string, and that is the data of a `HashInput`: the coordinator's
signing digest and each gateway's reconstruction are compared as `HashInput`s, and the
functions themselves enter later developments as parameters of type `HashInput → Bytes`.

`toLeBytes w` is injective below `256 ^ w` (`toLeBytes_inj`): a fixed-width counter at the
end of an id pre-image tells the pre-images apart.

Some components write an amount as decimal text, `amount.to_string()`, where others write
its `to_le_bytes()`. The text is one ASCII digit, `0x30` to `0x39`, per decimal digit, while
a value below `10 ^ k` has a byte below `0x30` among its `k` low bytes; so the two encodings
never agree (`toLeBytes_append_ne_asBytes_toString`).
-/

namespace ZeroBridge

/-- A byte string, `Vec<u8>` or `&[u8]`. -/
abbrev Bytes := List UInt8

/-- `s.as_bytes()`: the UTF-8 encoding of a string. -/
def asBytes (s : String) : Bytes := s.toUTF8.data.toList

/-- The bytes of a concatenation are the concatenation of the bytes. -/
@[simp]
theorem asBytes_append (a b : String) : asBytes (a ++ b) = asBytes a ++ asBytes b := by
  simp [asBytes, String.toUTF8, String.data_append]

/-- `n.to_le_bytes()` for an unsigned integer type of `w` bytes (`w = 8` for `u64`,
`w = 16` for `u128`): the `w` low bytes of `n`, least significant first. -/
def toLeBytes : Nat → Nat → Bytes
  | 0, _ => []
  | w + 1, n => UInt8.ofNat (n % 256) :: toLeBytes w (n / 256)

@[simp]
theorem length_toLeBytes (w n : Nat) : (toLeBytes w n).length = w := by
  induction w generalizing n with
  | zero => rfl
  | succ w ih => simp [toLeBytes, ih]

/-- The `w + k` low bytes: the `w` low bytes, then the `k` bytes above them. -/
theorem toLeBytes_add (w k n : Nat) :
    toLeBytes (w + k) n = toLeBytes w n ++ toLeBytes k (n / 256 ^ w) := by
  induction w generalizing n with
  | zero => simp [toLeBytes]
  | succ w ih =>
    rw [Nat.add_right_comm, toLeBytes, ih, toLeBytes, Nat.div_div_eq_div_mul, Nat.pow_succ,
      Nat.mul_comm (256 ^ w)]
    rfl

@[simp]
theorem toLeBytes_zero (k : Nat) : toLeBytes k 0 = List.replicate k 0 := by
  induction k with
  | zero => rfl
  | succ k ih => simp [toLeBytes, ih, List.replicate_succ]

/-- A big-endian word as a number. -/
def beNat (b : Bytes) : Nat := b.foldl (fun n x => 256 * n + x.toNat) 0

/-- `&b[lo..hi]`: the bytes from `lo` up to `hi`, or `none` where the slice panics, with `hi`
past the end or before `lo`. -/
def slice (b : Bytes) (lo hi : Nat) : Option Bytes :=
  if lo ≤ hi ∧ hi ≤ b.length then some ((b.drop lo).take (hi - lo)) else none

theorem slice_of_le {b : Bytes} {lo hi : Nat} (h : lo ≤ hi) (hb : hi ≤ b.length) :
    slice b lo hi = some ((b.drop lo).take (hi - lo)) :=
  if_pos ⟨h, hb⟩

theorem slice_eq_none_iff {b : Bytes} {lo hi : Nat} (h : lo ≤ hi) :
    slice b lo hi = none ↔ b.length < hi := by
  unfold slice
  split <;> simp_all

/-- The byte `UInt8.ofNat (n % 256)` determines `n % 256`. -/
private theorem toNat_ofNat_mod (n : Nat) : (UInt8.ofNat (n % 256)).toNat = n % 256 :=
  UInt8.toNat_ofNat_of_lt (Nat.mod_lt _ (by decide))

/-- Fixed-width little-endian encoding is injective on the values that fit. -/
theorem toLeBytes_inj {w n m : Nat} (hn : n < 256 ^ w) (hm : m < 256 ^ w)
    (h : toLeBytes w n = toLeBytes w m) : n = m := by
  induction w generalizing n m with
  | zero => simp at hn hm; omega
  | succ w ih =>
    simp only [toLeBytes, List.cons.injEq] at h
    have hlow : n % 256 = m % 256 := by
      rw [← toNat_ofNat_mod n, ← toNat_ofNat_mod m, h.1]
    have hhigh : n / 256 = m / 256 :=
      ih (Nat.div_lt_of_lt_mul (by rw [Nat.pow_succ] at hn; omega))
        (Nat.div_lt_of_lt_mul (by rw [Nat.pow_succ] at hm; omega)) h.2
    omega

/-! ### Decimal text -/

/-- A decimal digit is one ASCII byte, `0x30` to `0x39`. -/
theorem utf8EncodeChar_digitChar : ∀ d < 10,
    String.utf8EncodeChar (Nat.digitChar d) = [UInt8.ofNat (48 + d)] := by
  decide

theorem flatMap_utf8EncodeChar_digitChar {ns : List Nat} (h : ∀ n ∈ ns, n < 10) :
    (ns.map Nat.digitChar).flatMap String.utf8EncodeChar = ns.map fun d => UInt8.ofNat (48 + d) := by
  induction ns with
  | nil => rfl
  | cons d ns ih =>
    simp only [List.mem_cons, forall_eq_or_imp] at h
    simp [utf8EncodeChar_digitChar d h.1, ih h.2]

/-- With enough fuel, `toDigitsCore 10` puts in front of `ds` at least one decimal digit,
and enough of them for `a`. -/
theorem toDigitsCore_ten (f a : Nat) (ds : List Char) (h : a < f) :
    ∃ ns : List Nat, Nat.toDigitsCore 10 f a ds = ns.map Nat.digitChar ++ ds ∧
      (∀ n ∈ ns, n < 10) ∧ 0 < ns.length ∧ a < 10 ^ ns.length := by
  induction f generalizing a ds with
  | zero => omega
  | succ f ih =>
    simp only [Nat.toDigitsCore]
    split
    case isTrue h0 => exact ⟨[a % 10], rfl, by simp; omega, by simp, by simp; omega⟩
    case isFalse h0 =>
      obtain ⟨ns, h1, h2, h3, h4⟩ := ih (a / 10) (Nat.digitChar (a % 10) :: ds) (by omega)
      refine ⟨ns ++ [a % 10], by simp [h1], ?_, by simp, ?_⟩
      · simpa [or_imp, forall_and] using ⟨h2, Nat.mod_lt _ (by decide)⟩
      · rw [List.length_append, List.length_singleton, Nat.pow_succ]
        omega

/-- The bytes of `a.to_string()`: one ASCII digit per decimal digit, at least one, and
enough of them for `a`. -/
theorem asBytes_toString (a : Nat) :
    ∃ ns : List Nat, asBytes (toString a) = ns.map (fun d => UInt8.ofNat (48 + d)) ∧
      (∀ n ∈ ns, n < 10) ∧ 0 < ns.length ∧ a < 10 ^ ns.length := by
  obtain ⟨ns, h1, h2, h3, h4⟩ := toDigitsCore_ten (a + 1) a [] (by omega)
  refine ⟨ns, ?_, h2, h3, h4⟩
  simp only [asBytes, String.toUTF8, toString, Nat.repr, Nat.toDigits, h1, List.append_nil]
  exact flatMap_utf8EncodeChar_digitChar h2

theorem take_toLeBytes {k w : Nat} (h : k ≤ w) (n : Nat) : (toLeBytes w n).take k = toLeBytes k n := by
  induction w generalizing k n with
  | zero => simp [Nat.le_zero.mp h, toLeBytes]
  | succ w ih =>
    cases k with
    | zero => rfl
    | succ k => simp [toLeBytes, ih (Nat.le_of_succ_le_succ h)]

/-- Below `10 ^ k`, the `k` low bytes of a number hold one below `0x30`, the byte of `'0'`:
its top byte is zero, or for `k = 1` the number itself is below ten. -/
theorem exists_toLeBytes_lt {k a : Nat} (hk : 0 < k) (ha : a < 10 ^ k) :
    ∃ b ∈ toLeBytes k a, b.toNat < 48 := by
  induction k generalizing a with
  | zero => omega
  | succ k ih =>
    rcases Nat.eq_zero_or_pos k with rfl | hk
    · refine ⟨UInt8.ofNat (a % 256), by simp [toLeBytes], ?_⟩
      rw [UInt8.toNat_ofNat_of_lt (Nat.mod_lt _ (by decide))]
      exact lt_of_le_of_lt (Nat.mod_le _ _) (by simp at ha; omega)
    · have : a / 256 < 10 ^ k := by rw [Nat.pow_succ] at ha; omega
      obtain ⟨b, hb, hlt⟩ := ih hk this
      exact ⟨b, List.mem_cons_of_mem _ hb, hlt⟩

/-- **`u64` bytes are not decimal text.** `a.to_le_bytes()` followed by `x` is never
`a.to_string().as_bytes()` followed by a `y` at least as long as `x`: the lengths force the
text to at most 8 digits, and then it is a prefix of the 8 bytes, which hold a byte below
`'0'` among its first `k`. -/
theorem toLeBytes_append_ne_asBytes_toString (a : Nat) {x y : Bytes} (h : x.length ≤ y.length) :
    toLeBytes 8 a ++ x ≠ asBytes (toString a) ++ y := by
  intro heq
  obtain ⟨ns, hs, hd, hpos, hlt⟩ := asBytes_toString a
  have hlen := congrArg List.length heq
  simp only [List.length_append, length_toLeBytes, hs, List.length_map] at hlen
  have htake := congrArg (List.take ns.length) heq
  rw [List.take_append_of_le_length (by simp; omega), take_toLeBytes (by omega), hs,
    List.take_left' (List.length_map _ _)] at htake
  obtain ⟨b, hb, hb48⟩ := exists_toLeBytes_lt hpos hlt
  rw [htake, List.mem_map] at hb
  obtain ⟨d, hd', rfl⟩ := hb
  have h256 : UInt8.size = 256 := rfl
  rw [UInt8.toNat_ofNat_of_lt (by have := hd d hd'; omega)] at hb48
  omega

/-- The hash functions the components apply. -/
inductive HashFn
  | sha256
  | keccak256
  deriving DecidableEq, Repr

/-- One application of a hash function: the function, and the byte string it hashes. -/
structure HashInput where
  fn : HashFn
  message : Bytes
  deriving DecidableEq, Repr

end ZeroBridge
