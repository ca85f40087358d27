import ZeroBridge.Encoding.Bytes

/-!
# JSON values as serde writes and reads them

The coordinator and the relayer talk over HTTP with JSON bodies, written and read by serde's
derived `Serialize` and `Deserialize` (through `serde_json`, `reqwest` and axum's `Json`).
The model is at the level of JSON values: the text that carries a value from one side to the
other is `serde_json`'s, and it reads back as the value it was written from.

**Writing** a struct gives an object with one entry per field, in declaration order; a `u64`
is a number, a `String` a string, and a `Vec<u8>` an array of numbers (`ofBytes`).

**Reading** a struct (`getField`) takes each declared field from the object's entries:
absent, it is `missing field`; present twice, `duplicate field`; present once, its value is
read by the field's type (`toU64`, `toStr`, `toBytes`). Entries of undeclared names are
ignored. A body is accepted exactly when serde accepts it, with the same value. When a body
has several faults, serde reports the first entry's in document order and the missing fields
last, where the model reports the first field's in declaration order.

Numbers are integers: `serde_json` reads a number with a fraction or an exponent as a float,
which no field here accepts, and writes none.
-/

namespace ZeroBridge

/-- A JSON value. An object keeps its entries in order, repeated names included. -/
inductive Json
  | null
  | bool (b : Bool)
  | num (n : Int)
  | str (s : String)
  | arr (elems : List Json)
  | obj (entries : List (String × Json))
  deriving Repr

/-- Why serde refuses a value. -/
inductive JsonError
  /-- ``missing field `name` ``. -/
  | missingField (name : String)
  /-- ``duplicate field `name` ``. -/
  | duplicateField (name : String)
  /-- `invalid type: …, expected …`: a value of another kind than the type reads. -/
  | invalidType (expected : String)
  /-- `invalid value: …, expected …`: a number out of the type's range. -/
  | invalidValue (expected : String)
  deriving DecidableEq, Repr

@[simp]
theorem Except.ok_bind {ε α β : Type} (a : α) (f : α → Except ε β) : (Except.ok a >>= f) = f a :=
  rfl

@[simp]
theorem Except.error_bind {ε α β : Type} (e : ε) (f : α → Except ε β) :
    (Except.error e >>= f) = .error e :=
  rfl

namespace Json

/-- A `Vec<u8>` as serde writes it: an array of numbers. -/
def ofBytes (b : Bytes) : Json := arr (b.map fun x => num x.toNat)

/-- An `Option<String>` as serde writes it: the string, or `null`. -/
def ofOption : Option String → Json
  | some s => str s
  | none => null

/-- `value[name]` on a `serde_json::Value`: the value of the entry `name` of an object, the
last one when the name repeats (the map keeps the last insert), and `null` otherwise. -/
def index (v : Json) (name : String) : Json :=
  match v with
  | obj e => ((e.reverse.find? (·.1 = name)).map Prod.snd).getD null
  | _ => null

/-- `Value::as_bool`. -/
def asBool : Json → Option Bool
  | bool b => some b
  | _ => none

/-- Reading a `u64`. -/
def toU64 : Json → Except JsonError Nat
  | num n => if 0 ≤ n ∧ n < 2 ^ 64 then .ok n.toNat else .error (.invalidValue "u64")
  | _ => .error (.invalidType "u64")

/-- Reading a `u8`. -/
def toU8 : Json → Except JsonError UInt8
  | num n => if 0 ≤ n ∧ n < 256 then .ok (UInt8.ofNat n.toNat) else .error (.invalidValue "u8")
  | _ => .error (.invalidType "u8")

/-- Reading a `String`. -/
def toStr : Json → Except JsonError String
  | str s => .ok s
  | _ => .error (.invalidType "a string")

/-- Reading a `Vec<u8>`: a sequence of `u8`. -/
def toBytes : Json → Except JsonError Bytes
  | arr xs => xs.mapM toU8
  | _ => .error (.invalidType "a sequence")

/-- The value of the declared field `name` among an object's entries, read by `read`. -/
def getField {α : Type} (entries : List (String × Json)) (name : String)
    (read : Json → Except JsonError α) : Except JsonError α :=
  match entries.filter (·.1 = name) with
  | [] => .error (.missingField name)
  | [(_, v)] => read v
  | _ => .error (.duplicateField name)

@[simp]
theorem toU64_num {n : Nat} (h : n < 2 ^ 64) : toU64 (num n) = .ok n := by
  simp only [toU64, Int.ofNat_nonneg, true_and, Int.toNat_ofNat]
  rw [if_pos (by omega)]

theorem toU64_num_of_le {n : Nat} (h : 2 ^ 64 ≤ n) :
    toU64 (num n) = .error (.invalidValue "u64") := by
  simp only [toU64]
  rw [if_neg (by omega)]

@[simp]
theorem toU64_num_toNat (x : UInt64) : toU64 (num x.toNat) = .ok x.toNat :=
  toU64_num x.toNat_lt_size

@[simp]
theorem toStr_str (s : String) : toStr (str s) = .ok s := rfl

@[simp]
theorem toU8_num (x : UInt8) : toU8 (num x.toNat) = .ok x := by
  have hx : x.toNat < 256 := x.toNat_lt_size
  simp only [toU8, Int.ofNat_nonneg, true_and, Int.toNat_ofNat]
  rw [if_pos (by omega), UInt8.toNat.inj (UInt8.toNat_ofNat_of_lt hx)]

@[simp]
theorem toBytes_ofBytes (b : Bytes) : toBytes (ofBytes b) = .ok b := by
  induction b with
  | nil => rfl
  | cons x b ih =>
    simp only [toBytes, ofBytes, List.map_cons, List.mapM_cons, toU8_num] at ih ⊢
    rw [ih]
    rfl

end Json

end ZeroBridge
