import Mathlib.Algebra.Order.Ring.Nat
import Mathlib.Data.List.Nodup

/-!
# Tables with a primary key

The coordinator keeps its deposits and withdrawals in SQLite tables whose first column is
the `PRIMARY KEY`, and its liquidity pools in a `HashMap` keyed by `(chain_id, token)`.
`Table κ α key` models all of them: the rows in insertion order, with the key column
carried as a `Nodup` field, so that no value of the type holds two rows with one key.

The operations are the statements the source runs: `find?` is a keyed `SELECT` (or
`HashMap::get`), `insert` an `INSERT` that fails on a duplicate key, `modify` an
`UPDATE ... WHERE key = ?`, `erase` a keyed `DELETE`, `upsert` an `INSERT OR REPLACE`
(or `HashMap::insert`), and `retain` is `HashMap::retain`. Each comes with the one lemma
that says what `find?` returns after it, and later proofs read tables only through those
lemmas.
-/

namespace ZeroBridge

/-- A table with a primary-key column: the rows in insertion order, and the proof that no
two rows share a key. -/
structure Table (κ : Type) (α : Type) (key : α → κ) where
  rows : List α
  nodup_keys : (rows.map key).Nodup

namespace Table

variable {κ α : Type} [DecidableEq κ] {key : α → κ}

/-- The table with no rows. -/
def empty : Table κ α key := ⟨[], List.nodup_nil⟩

/-- The row with key `k`: a keyed `SELECT`, or `HashMap::get`. -/
def find? (t : Table κ α key) (k : κ) : Option α :=
  t.rows.find? fun r => key r = k

/-- `INSERT`: appends the row, and fails when a row with its key is already present. -/
def insert (t : Table κ α key) (r : α) : Option (Table κ α key) :=
  if h : t.rows.any (fun x => key x = key r) then none
  else some ⟨t.rows ++ [r], by
    rw [List.map_append]
    refine List.nodup_append.mpr ⟨t.nodup_keys, List.nodup_singleton _, ?_⟩
    simp only [List.any_eq_true, decide_eq_true_eq, not_exists, not_and] at h
    simpa [List.disjoint_singleton] using h⟩

/-- `UPDATE ... WHERE key = k`: applies `f`, which keeps the key, to the row with key `k`. -/
def modify (t : Table κ α key) (k : κ) (f : α → α) (hf : ∀ a, key (f a) = key a) :
    Table κ α key :=
  ⟨t.rows.map fun r => if key r = k then f r else r, by
    rw [List.map_map]
    convert t.nodup_keys using 1
    exact List.map_congr_left fun r _ => by by_cases h : key r = k <;> simp [h, hf]⟩

/-- `DELETE ... WHERE key = k`. -/
def erase (t : Table κ α key) (k : κ) : Table κ α key :=
  ⟨t.rows.filter fun r => key r ≠ k,
    t.nodup_keys.sublist ((List.filter_sublist _).map key)⟩

/-- `INSERT OR REPLACE`, or `HashMap::insert`: the row replaces the one with its key. -/
def upsert (t : Table κ α key) (r : α) : Table κ α key :=
  ⟨(t.rows.filter fun x => key x ≠ key r) ++ [r], by
    rw [List.map_append]
    refine List.nodup_append.mpr
      ⟨t.nodup_keys.sublist ((List.filter_sublist _).map key), List.nodup_singleton _, ?_⟩
    simp [List.disjoint_singleton, List.mem_filter]⟩

/-- `HashMap::retain`: keeps the rows that satisfy `p`. -/
def retain (t : Table κ α key) (p : α → Bool) : Table κ α key :=
  ⟨t.rows.filter p, t.nodup_keys.sublist ((List.filter_sublist _).map key)⟩

/-! ### Reading a table after each statement -/

theorem find?_eq_some_iff {t : Table κ α key} {k : κ} {r : α} :
    t.find? k = some r ↔ r ∈ t.rows ∧ key r = k := by
  constructor
  · intro h
    exact ⟨List.mem_of_find?_eq_some h, by simpa using List.find?_some h⟩
  · rintro ⟨hr, rfl⟩
    obtain ⟨r', hr'⟩ : ∃ r', t.find? (key r) = some r' :=
      Option.isSome_iff_exists.mp (List.find?_isSome.mpr ⟨r, hr, by simp⟩)
    have hk : key r' = key r := by simpa using List.find?_some hr'
    rw [hr', List.inj_on_of_nodup_map t.nodup_keys (List.mem_of_find?_eq_some hr') hr hk]

theorem find?_eq_none_iff {t : Table κ α key} {k : κ} :
    t.find? k = none ↔ ∀ r ∈ t.rows, key r ≠ k := by
  simp [find?, List.find?_eq_none]

@[simp]
theorem find?_empty (k : κ) : (empty : Table κ α key).find? k = none := rfl

theorem insert_eq_none_iff {t : Table κ α key} {r : α} :
    t.insert r = none ↔ (t.find? (key r)).isSome := by
  simp [insert, find?, List.find?_isSome]

theorem find?_eq_none_of_insert {t t' : Table κ α key} {r : α} (h : t.insert r = some t') :
    t.find? (key r) = none := by
  cases hf : t.find? (key r)
  · rfl
  · rw [Table.insert_eq_none_iff.mpr (by simp [hf])] at h
    cases h

theorem find?_insert {t t' : Table κ α key} {r : α} (h : t.insert r = some t') (k : κ) :
    t'.find? k = if key r = k then some r else t.find? k := by
  unfold insert at h
  split at h
  · cases h
  · cases h
    rename_i hnone
    simp only [List.any_eq_true, decide_eq_true_eq, not_exists, not_and] at hnone
    by_cases hk : key r = k
    · subst hk
      have : t.rows.find? (fun x => key x = key r) = none :=
        List.find?_eq_none.mpr fun x hx => by simpa using hnone x hx
      simp [find?, List.find?_append, this]
    · simp [find?, List.find?_append, hk]

/-- The row an `UPDATE` leaves in place of `r`. -/
private theorem key_update {k : κ} {f : α → α} (hf : ∀ a, key (f a) = key a) (r : α) :
    key (if key r = k then f r else r) = key r := by
  split <;> simp [hf]

@[simp]
theorem find?_modify (t : Table κ α key) (k k' : κ) (f : α → α) (hf : ∀ a, key (f a) = key a) :
    (t.modify k f hf).find? k' = if k = k' then (t.find? k).map f else t.find? k' := by
  have hp : ((fun r => decide (key r = k')) ∘ fun r => if key r = k then f r else r) =
      fun r => decide (key r = k') := funext fun r => by simp only [Function.comp, key_update hf]
  simp only [find?, modify, List.find?_map, hp]
  cases h : t.rows.find? (fun r => decide (key r = k')) with
  | none => by_cases hk : k = k' <;> simp [hk, h]
  | some x =>
    have hx : key x = k' := by simpa using List.find?_some h
    by_cases hk : k = k'
    · subst hk; simp [hx, h]
    · simp [hx, hk, Ne.symm hk]

@[simp]
theorem find?_erase (t : Table κ α key) (k k' : κ) :
    (t.erase k).find? k' = if k = k' then none else t.find? k' := by
  split
  · subst k'
    exact find?_eq_none_iff.mpr fun r hr => by simpa using (List.mem_filter.mp hr).2
  · rename_i hk
    refine Option.ext fun r => ?_
    rw [Option.mem_def, Option.mem_def, find?_eq_some_iff, find?_eq_some_iff]
    simp only [erase, List.mem_filter, decide_eq_true_eq]
    constructor
    · exact fun ⟨⟨hr, _⟩, hkr⟩ => ⟨hr, hkr⟩
    · rintro ⟨hr, rfl⟩
      exact ⟨⟨hr, Ne.symm hk⟩, rfl⟩

@[simp]
theorem find?_upsert (t : Table κ α key) (r : α) (k : κ) :
    (t.upsert r).find? k = if key r = k then some r else t.find? k := by
  refine Option.ext fun x => ?_
  rw [Option.mem_def, Option.mem_def, find?_eq_some_iff]
  simp only [upsert, List.mem_append, List.mem_filter, List.mem_singleton, decide_eq_true_eq]
  split
  · rename_i hk
    subst hk
    constructor
    · rintro ⟨⟨_, hne⟩ | rfl, hx⟩
      · exact absurd hx hne
      · rfl
    · intro h
      cases h
      exact ⟨Or.inr rfl, rfl⟩
  · rename_i hk
    rw [find?_eq_some_iff]
    constructor
    · rintro ⟨⟨hx, _⟩ | rfl, hxk⟩
      · exact ⟨hx, hxk⟩
      · exact absurd hxk hk
    · rintro ⟨hx, rfl⟩
      exact ⟨Or.inl ⟨hx, fun h => hk h.symm⟩, rfl⟩

@[simp]
theorem find?_retain (t : Table κ α key) (p : α → Bool) (k : κ) :
    (t.retain p).find? k = (t.find? k).filter p := by
  refine Option.ext fun x => ?_
  rw [Option.mem_def, Option.mem_def, Option.filter_eq_some, Option.mem_def, find?_eq_some_iff,
    find?_eq_some_iff]
  simp only [retain, List.mem_filter, and_right_comm]

/-- Upserting rows one after another, as a load from another table does: under each key, the
row made from the source row with that key, else what the table held. -/
theorem find?_foldl_upsert {β : Type} {key' : β → κ} (f : β → α) (hf : ∀ b, key (f b) = key' b)
    (rows : List β) (hnd : (rows.map key').Nodup) (t : Table κ α key) (k : κ) :
    (rows.foldl (fun t r => t.upsert (f r)) t).find? k =
      ((rows.find? fun r => key' r = k).map f).or (t.find? k) := by
  induction rows generalizing t with
  | nil => rfl
  | cons r rs ih =>
    obtain ⟨hr, hrs⟩ := List.nodup_cons.mp hnd
    rw [List.foldl_cons, ih hrs, find?_upsert, hf]
    by_cases hk : key' r = k
    · have hnone : rs.find? (fun x => key' x = k) = none :=
        List.find?_eq_none.mpr fun x hx hxk => hr <| by
          rw [hk, ← of_decide_eq_true hxk]; exact List.mem_map_of_mem key' hx
      simp [hk, hnone]
    · simp [hk]

/-- **Primary key.** A table holds at most one row with a given key. -/
theorem length_filter_key_le_one (t : Table κ α key) (k : κ) :
    (t.rows.filter fun r => key r = k).length ≤ 1 := by
  have hnd : ((t.rows.filter fun r => key r = k).map key).Nodup :=
    t.nodup_keys.sublist ((List.filter_sublist _).map key)
  have hrep : (t.rows.filter fun r => key r = k).map key =
      List.replicate (t.rows.filter fun r => key r = k).length k :=
    List.eq_replicate_iff.mpr ⟨List.length_map _ _, by simp +contextual [eq_comm]⟩
  rwa [hrep, List.nodup_replicate] at hnd

omit [DecidableEq κ] in
/-- Rows that a predicate selects and that pairwise share their key are at most one. -/
theorem length_filter_le_one (t : Table κ α key) (p : α → Bool)
    (h : ∀ a ∈ t.rows, ∀ b ∈ t.rows, p a → p b → key a = key b) :
    (t.rows.filter p).length ≤ 1 := by
  have hsub : (t.rows.filter p).Sublist t.rows := List.filter_sublist _
  have hnd := t.nodup_keys.sublist (hsub.map key)
  rcases hl : t.rows.filter p with _ | ⟨a, _ | ⟨b, l⟩⟩
  · simp
  · simp
  · have hmem : ∀ x ∈ t.rows.filter p, x ∈ t.rows ∧ p x = true := fun x hx => List.mem_filter.mp hx
    obtain ⟨ha, hpa⟩ := hmem a (by simp [hl])
    obtain ⟨hb, hpb⟩ := hmem b (by simp [hl])
    rw [hl] at hnd
    simp [h a ha b hb hpa hpb] at hnd

end Table

end ZeroBridge
