import Mathlib.Logic.Function.Basic
import ZeroBridge.Encoding.Hex

/-!
# The token registry

`TokenRegistry` (`token_registry.rs`) maps a canonical token id to the token's
representations on each chain, and a `(chain_id, lower-cased address)` pair back to the
canonical id. It is read-only once loaded, so the engine takes it as a fixed parameter.

`get_token_for_chain` resolves an address on one chain to *the* representation of its
canonical token on that same chain: the first one listed with that `chain_id`. The two
hash maps are functions here.

Addresses are keyed by `str::to_lowercase` and symbols hashed after `str::to_uppercase`. Both
are Unicode's full case mappings (`'\u{212A}'`, the Kelvin sign, lower-cases to `'k'`; `'ß'`
upper-cases to `"SS"`), which the model does not tabulate: they are a parameter, `CaseMapping`,
of `load` and `compute_canonical_id`, and the registry carries the `to_lowercase` its lookups
apply. Every theorem below holds for every case mapping, Rust's included; the sample files,
whose text is ASCII, are evaluated with `CaseMapping.ascii`, which agrees with Rust's there.

`load` builds the registry from the parsed file (`TokenConfig`; reading and parsing the
TOML text are not modelled): for each token definition, in order, a reverse-lookup entry per
representation and then the definition's mappings, every `HashMap::insert` replacing what
was at its key. Its spec lemmas `reverseLookup_load` and `mappings_load` say what the two
maps hold: at each key, the value of the last entry written there. The canonical id is
`compute_canonical_id`, a truncated BLAKE2b-512 of the upper-cased symbol, with the hash a
parameter.

**Lookups** (`load_resolves_listed`). An address listed once resolves to its token's
canonical id, under which `load` keeps the last definition with that id. The lookup returns
that definition's first representation on the chain, or fails with `"Token not available on
specified chain"` when it has none there. So an address resolves to its own representation
only when its definition is the only one with its id and lists no earlier representation on
the same chain: a token with two representations on one chain resolves both addresses to the
first (`second_representation_not_returned`).

**Aliases** (`load_keeps_last_alias`). Once the file is parsed, `load` cannot fail: a pair that
two definitions list keeps the canonical id of the last one, so an address listed under one
token can resolve to another (`alias_loaded_silently`).
-/

namespace ZeroBridge

/-- A token's representation on one chain (`ChainToken`). -/
structure ChainToken where
  chainId : Nat
  chainName : String
  address : String
  decimals : Nat
  native : Bool
  wrappedVersion : Option String
  deriving DecidableEq, Repr

/-- A token across chains (`TokenMappings`); the canonical id is its `String`. -/
structure TokenMappings where
  canonicalId : String
  symbol : String
  name : String
  decimals : Nat
  representations : List ChainToken
  deriving DecidableEq, Repr

/-- The registry: `mappings` and `reverse_lookup`, and the `to_lowercase` that its lookups
apply to an address. -/
structure TokenRegistry where
  toLowercase : String → String
  mappings : String → Option TokenMappings
  reverseLookup : Nat × String → Option String

/-- Rust's `str::to_lowercase` and `str::to_uppercase`. -/
structure CaseMapping where
  toLowercase : String → String
  toUppercase : String → String

/-- Case mapping of ASCII letters only: Rust's, on text whose characters are all ASCII. -/
def CaseMapping.ascii : CaseMapping :=
  ⟨fun s => ⟨s.data.map Char.toLower⟩, fun s => ⟨s.data.map Char.toUpper⟩⟩

/-- A `[[tokens.representations]]` entry of the registry file (`TokenRepresentation`), as
`toml::from_str` reads it: `decimals` and `wrapped_version` are `None` when absent, and
`native` is `false`. -/
structure TokenRepresentation where
  chainId : Nat
  chainName : String
  address : String
  decimals : Option Nat
  native : Bool
  wrappedVersion : Option String
  deriving DecidableEq, Repr

/-- A `[[tokens]]` entry of the registry file (`TokenDefinition`). -/
structure TokenDefinition where
  symbol : String
  name : String
  decimals : Nat
  representations : List TokenRepresentation
  deriving DecidableEq, Repr

/-- The parsed registry file (`TokenConfig`). -/
structure TokenConfig where
  tokens : List TokenDefinition
  deriving DecidableEq, Repr

/-- `compute_canonical_id`: the first 16 bytes of BLAKE2b-512 over the upper-cased symbol,
hex-encoded. -/
def computeCanonicalId (cm : CaseMapping) (blake2b512 : Bytes → Bytes) (symbol : String) :
    String :=
  hexEncode ((blake2b512 (asBytes (cm.toUppercase symbol))).take 16)

/-- The `ChainToken` `load` builds for a representation: its `decimals` default to the
token's. -/
def TokenRepresentation.toChainToken (decimals : Nat) (r : TokenRepresentation) : ChainToken :=
  ⟨r.chainId, r.chainName, r.address, r.decimals.getD decimals, r.native, r.wrappedVersion⟩

/-- The `TokenMappings` `load` builds for a definition. -/
def TokenDefinition.toMappings (canonicalId : String) (T : TokenDefinition) : TokenMappings :=
  ⟨canonicalId, T.symbol, T.name, T.decimals, T.representations.map (·.toChainToken T.decimals)⟩

/-- The `(chain_id, lower-cased address)` pairs of the file, one per representation, in
order. -/
def TokenConfig.addressKeys (cm : CaseMapping) (config : TokenConfig) : List (Nat × String) :=
  config.tokens.flatMap fun T => T.representations.map fun r => (r.chainId, cm.toLowercase r.address)

/-- The reverse-lookup entries `load` writes, in order. -/
def TokenConfig.reverseEntries (cm : CaseMapping) (blake2b512 : Bytes → Bytes) (config : TokenConfig) :
    List ((Nat × String) × String) :=
  config.tokens.flatMap fun T => T.representations.map fun r =>
    ((r.chainId, cm.toLowercase r.address), computeCanonicalId cm blake2b512 T.symbol)

/-- The mappings `load` writes, in order. -/
def TokenConfig.mappingEntries (cm : CaseMapping) (blake2b512 : Bytes → Bytes) (config : TokenConfig) :
    List (String × TokenMappings) :=
  config.tokens.map fun T =>
    (computeCanonicalId cm blake2b512 T.symbol, T.toMappings (computeCanonicalId cm blake2b512 T.symbol))

/-- The map a sequence of `HashMap::insert`s leaves, from `m`. -/
def insertAll {κ β : Type} [DecidableEq κ] (m : κ → Option β) (entries : List (κ × β)) :
    κ → Option β :=
  entries.foldl (fun m e => Function.update m e.1 (some e.2)) m

namespace TokenRegistry

/-- `get_token_by_id`: the representation of a canonical token on `chainId`. -/
def getTokenById (reg : TokenRegistry) (canonicalId : String) (chainId : Nat) :
    Except String ChainToken :=
  match reg.mappings canonicalId with
  | none => .error "Token not found"
  | some m =>
    match m.representations.find? (·.chainId = chainId) with
    | none => .error "Token not available on specified chain"
    | some t => .ok t

/-- `get_token_for_chain`: resolve an address on `chainId` to its canonical token's
representation on `chainId`. -/
def getTokenForChain (reg : TokenRegistry) (chainId : Nat) (tokenAddress : String) :
    Except String ChainToken :=
  match reg.reverseLookup (chainId, reg.toLowercase tokenAddress) with
  | none => .error "Token not found in registry"
  | some canonicalId =>
    match reg.mappings canonicalId with
    | none => .error "Token mappings not found"
    | some m =>
      match m.representations.find? (·.chainId = chainId) with
      | none => .error "Token not available on specified chain"
      | some t => .ok t

/-- `get_canonical_id`. -/
def getCanonicalId (reg : TokenRegistry) (chainId : Nat) (tokenAddress : String) :
    Option String :=
  reg.reverseLookup (chainId, reg.toLowercase tokenAddress)

/-- `is_supported`. -/
def isSupported (reg : TokenRegistry) (chainId : Nat) (tokenAddress : String) : Bool :=
  (reg.getCanonicalId chainId tokenAddress).isSome

/-- The registry with no token. -/
def empty (toLowercase : String → String) : TokenRegistry := ⟨toLowercase, fun _ => none, fun _ => none⟩

/-- One pass of `load`'s outer loop: a reverse-lookup entry for each representation, in
order, then the definition's mappings. -/
def addDefinition (cm : CaseMapping) (blake2b512 : Bytes → Bytes) (reg : TokenRegistry)
    (T : TokenDefinition) : TokenRegistry :=
  let canonicalId := computeCanonicalId cm blake2b512 T.symbol
  { reg with
    mappings := Function.update reg.mappings canonicalId (some (T.toMappings canonicalId))
    reverseLookup := T.representations.foldl
      (fun rl r => Function.update rl (r.chainId, cm.toLowercase r.address) (some canonicalId))
      reg.reverseLookup }

/-- `load`, from the parsed file. -/
def load (cm : CaseMapping) (blake2b512 : Bytes → Bytes) (config : TokenConfig) : TokenRegistry :=
  config.tokens.foldl (addDefinition cm blake2b512) (empty cm.toLowercase)

end TokenRegistry

/-! ### What `load` stores -/

section InsertAll

variable {κ β : Type} [DecidableEq κ]

@[simp]
theorem insertAll_nil (m : κ → Option β) : insertAll m [] = m := rfl

@[simp]
theorem insertAll_append (m : κ → Option β) (l₁ l₂ : List (κ × β)) :
    insertAll m (l₁ ++ l₂) = insertAll (insertAll m l₁) l₂ := List.foldl_append _ _ _ _

/-- The value at a key: that of the last entry written there, or else what was there. -/
theorem insertAll_apply (m : κ → Option β) (l : List (κ × β)) (k : κ) :
    insertAll m l k = ((l.reverse.find? fun e => e.1 = k).map Prod.snd).or (m k) := by
  induction l generalizing m with
  | nil => rfl
  | cons e l ih =>
    rw [insertAll, List.foldl_cons, ← insertAll, ih, List.reverse_cons, List.find?_append]
    cases l.reverse.find? fun e => e.1 = k with
    | some _ => rfl
    | none =>
      by_cases he : e.1 = k
      · subst he; simp
      · simp [he, Function.update_noteq (Ne.symm he)]

theorem insertAll_of_not_mem (m : κ → Option β) {l : List (κ × β)} {k : κ}
    (h : k ∉ l.map Prod.fst) : insertAll m l k = m k := by
  induction l generalizing m with
  | nil => rfl
  | cons e l ih =>
    simp only [List.map_cons, List.mem_cons, not_or] at h
    rw [insertAll, List.foldl_cons, ← insertAll, ih _ h.2, Function.update_noteq h.1]

/-- The value at a key every entry of which agrees: that value, whatever was before. -/
theorem insertAll_of_forall (m : κ → Option β) {l : List (κ × β)} {k : κ} {v : β}
    (hmem : (k, v) ∈ l) (hall : ∀ e ∈ l, e.1 = k → e.2 = v) : insertAll m l k = some v := by
  induction l generalizing m with
  | nil => cases hmem
  | cons e l ih =>
    rw [insertAll, List.foldl_cons, ← insertAll]
    by_cases hl : k ∈ l.map Prod.fst
    · obtain ⟨⟨k', v'⟩, he, rfl⟩ := List.mem_map.mp hl
      have hv : v' = v := hall _ (List.mem_cons_of_mem _ he) rfl
      exact ih _ (hv ▸ he) fun e' he' => hall e' (List.mem_cons_of_mem _ he')
    · have he : e = (k, v) := by
        rcases List.mem_cons.mp hmem with h | h
        · exact h.symm
        · exact absurd (List.mem_map_of_mem Prod.fst h) hl
      rw [insertAll_of_not_mem _ hl, he, Function.update_same]

end InsertAll

namespace TokenRegistry

variable (cm : CaseMapping) (blake2b512 : Bytes → Bytes)

theorem foldl_addDefinition (tokens : List TokenDefinition) (reg : TokenRegistry) :
    tokens.foldl (addDefinition cm blake2b512) reg =
      ⟨reg.toLowercase, insertAll reg.mappings (TokenConfig.mappingEntries cm blake2b512 ⟨tokens⟩),
        insertAll reg.reverseLookup (TokenConfig.reverseEntries cm blake2b512 ⟨tokens⟩)⟩ := by
  induction tokens generalizing reg with
  | nil => rfl
  | cons T tokens ih =>
    rw [List.foldl_cons, ih]
    simp only [TokenConfig.mappingEntries, TokenConfig.reverseEntries, List.map_cons,
      List.flatMap_cons, insertAll_append]
    simp [addDefinition, insertAll, List.foldl_map]

/-- A loaded registry looks addresses up with the mapping it was loaded with. -/
@[simp]
theorem toLowercase_load (config : TokenConfig) :
    (load cm blake2b512 config).toLowercase = cm.toLowercase := by
  rw [load, foldl_addDefinition]; rfl

/-- **What `load` stores in `reverse_lookup`**: at each pair, the canonical id of the last
representation written there. -/
theorem reverseLookup_load (config : TokenConfig) :
    (load cm blake2b512 config).reverseLookup =
      insertAll (fun _ => none) (config.reverseEntries cm blake2b512) := by
  rw [load, foldl_addDefinition]; rfl

/-- **What `load` stores in `mappings`**: under each canonical id, the mappings of the last
definition with that id. -/
theorem mappings_load (config : TokenConfig) :
    (load cm blake2b512 config).mappings =
      insertAll (fun _ => none) (config.mappingEntries cm blake2b512) := by
  rw [load, foldl_addDefinition]; rfl

/-- Under a canonical id, the mappings of the last definition of the file with that id. -/
theorem mappings_load_eq (config : TokenConfig) (c : String) :
    (load cm blake2b512 config).mappings c =
      (config.tokens.reverse.find? fun T => computeCanonicalId cm blake2b512 T.symbol = c).map
        (·.toMappings c) := by
  rw [mappings_load, insertAll_apply, Option.or_none, TokenConfig.mappingEntries,
    ← List.map_reverse, List.find?_map, Option.map_map]
  cases h : config.tokens.reverse.find? fun T => computeCanonicalId cm blake2b512 T.symbol = c with
  | none => simp only [Function.comp_def, h, Option.map_none']
  | some T =>
    have hc : computeCanonicalId cm blake2b512 T.symbol = c := by simpa using List.find?_some h
    simp only [Function.comp_def, h, Option.map_some', hc]

end TokenRegistry

@[simp]
theorem TokenConfig.map_fst_reverseEntries (cm : CaseMapping) (blake2b512 : Bytes → Bytes)
    (config : TokenConfig) :
    (config.reverseEntries cm blake2b512).map Prod.fst = config.addressKeys cm := by
  simp [TokenConfig.reverseEntries, TokenConfig.addressKeys, List.map_flatMap, Function.comp_def]

namespace TokenRegistry

variable (cm : CaseMapping) (blake2b512 : Bytes → Bytes)

/-- A pair the file does not list is not found. -/
theorem getTokenForChain_load_of_not_mem {config : TokenConfig} {chainId : Nat}
    {tokenAddress : String} (h : (chainId, cm.toLowercase tokenAddress) ∉ config.addressKeys cm) :
    (load cm blake2b512 config).getTokenForChain chainId tokenAddress =
      .error "Token not found in registry" := by
  rw [getTokenForChain, toLowercase_load, reverseLookup_load,
    insertAll_of_not_mem _ (by rwa [TokenConfig.map_fst_reverseEntries])]

/-- A representation whose pair the file lists once resolves to its definition's canonical
id. -/
theorem getCanonicalId_load_of_mem {config : TokenConfig} (hkeys : (config.addressKeys cm).Nodup)
    {T : TokenDefinition} (hT : T ∈ config.tokens) {r : TokenRepresentation}
    (hr : r ∈ T.representations) {a : String} (ha : cm.toLowercase a = cm.toLowercase r.address) :
    (load cm blake2b512 config).getCanonicalId r.chainId a =
      some (computeCanonicalId cm blake2b512 T.symbol) := by
  have hmem : ((r.chainId, cm.toLowercase r.address), computeCanonicalId cm blake2b512 T.symbol) ∈
      config.reverseEntries cm blake2b512 :=
    List.mem_flatMap.mpr ⟨T, hT, List.mem_map.mpr ⟨r, hr, rfl⟩⟩
  rw [getCanonicalId, toLowercase_load, reverseLookup_load, ha]
  refine insertAll_of_forall _ hmem fun e he hk => ?_
  have hnodup : ((config.reverseEntries cm blake2b512).map Prod.fst).Nodup := by
    rwa [TokenConfig.map_fst_reverseEntries]
  rw [List.inj_on_of_nodup_map hnodup he hmem hk]

variable {cm blake2b512}

/-- Once an address resolves to a canonical id under which a definition is stored,
`get_token_for_chain` returns the definition's first representation on the chain. -/
theorem getTokenForChain_load_eq {config : TokenConfig} {chainId : Nat} {a c : String}
    {T : TokenDefinition} (hid : (load cm blake2b512 config).getCanonicalId chainId a = some c)
    (hmap : (load cm blake2b512 config).mappings c = some (T.toMappings c)) :
    (load cm blake2b512 config).getTokenForChain chainId a =
      match T.representations.find? (fun r => r.chainId = chainId) with
      | some r => .ok (r.toChainToken T.decimals)
      | none => .error "Token not available on specified chain" := by
  have hpred : (fun t : ChainToken => decide (t.chainId = chainId)) ∘
      TokenRepresentation.toChainToken T.decimals = fun r => decide (r.chainId = chainId) := rfl
  rw [getCanonicalId] at hid
  rw [getTokenForChain, hid]
  simp only [hmap, TokenDefinition.toMappings, List.find?_map, hpred]
  cases T.representations.find? (fun r => r.chainId = chainId) <;> rfl

/-- **Lookups on a loaded registry.** For every case mapping and every file that lists no
`(chain_id, lower-cased address)` pair twice, every address equal up to case to a listed
representation's resolves to the canonical id of that representation's definition `T`.
`get_token_for_chain` then reads the last definition `T'` of the file with that id: it returns
`T'`'s first representation on the chain, with `decimals` defaulted from `T'`, and fails with
`"Token not available on specified chain"` when `T'` has none there. In particular it returns
the listed representation itself, with `decimals` defaulted from `T`, when no other definition
has `T`'s canonical id and `T` lists no earlier representation on the same chain. -/
theorem load_resolves_listed (cm : CaseMapping) (blake2b512 : Bytes → Bytes)
    (config : TokenConfig) (hkeys : (config.addressKeys cm).Nodup) (T : TokenDefinition)
    (hT : T ∈ config.tokens) (r : TokenRepresentation) (hr : r ∈ T.representations) (a : String)
    (ha : cm.toLowercase a = cm.toLowercase r.address) :
    (load cm blake2b512 config).getCanonicalId r.chainId a =
        some (computeCanonicalId cm blake2b512 T.symbol) ∧
      (∃ T', config.tokens.reverse.find? (fun T' => computeCanonicalId cm blake2b512 T'.symbol =
            computeCanonicalId cm blake2b512 T.symbol) = some T' ∧
        (load cm blake2b512 config).getTokenForChain r.chainId a =
          match T'.representations.find? (fun r' => r'.chainId = r.chainId) with
          | some r' => .ok (r'.toChainToken T'.decimals)
          | none => .error "Token not available on specified chain") ∧
      ((∀ T' ∈ config.tokens, computeCanonicalId cm blake2b512 T'.symbol =
          computeCanonicalId cm blake2b512 T.symbol → T' = T) →
        T.representations.find? (fun r' => r'.chainId = r.chainId) = some r →
        (load cm blake2b512 config).getTokenForChain r.chainId a = .ok (r.toChainToken T.decimals)) := by
  have hid := getCanonicalId_load_of_mem cm blake2b512 hkeys hT hr ha
  obtain ⟨T', hT'⟩ := Option.isSome_iff_exists.mp (List.find?_isSome.mpr
    ⟨T, List.mem_reverse.mpr hT, decide_eq_true rfl⟩ : (config.tokens.reverse.find? fun T' =>
      computeCanonicalId cm blake2b512 T'.symbol = computeCanonicalId cm blake2b512 T.symbol).isSome)
  have hget := getTokenForChain_load_eq hid (by rw [mappings_load_eq, hT']; rfl)
  refine ⟨hid, ⟨T', hT', hget⟩, fun hids hfirst => ?_⟩
  have hlast : T' = T := hids T' (List.mem_reverse.mp (List.mem_of_find?_eq_some hT'))
    (by simpa using List.find?_some hT')
  rw [hget, hlast, hfirst]

/-- A definition's representation resolves to its canonical id when no later definition lists
its pair: whatever earlier definitions wrote there is overwritten. -/
theorem getCanonicalId_load_of_last (cm : CaseMapping) (blake2b512 : Bytes → Bytes)
    (pre post : List TokenDefinition) {T : TokenDefinition} {r : TokenRepresentation}
    (hr : r ∈ T.representations) {a : String} (ha : cm.toLowercase a = cm.toLowercase r.address)
    (hpost : (r.chainId, cm.toLowercase r.address) ∉ TokenConfig.addressKeys cm ⟨post⟩) :
    (load cm blake2b512 ⟨pre ++ T :: post⟩).getCanonicalId r.chainId a =
      some (computeCanonicalId cm blake2b512 T.symbol) := by
  have hsplit : TokenConfig.reverseEntries cm blake2b512 ⟨pre ++ T :: post⟩ =
      TokenConfig.reverseEntries cm blake2b512 ⟨pre⟩ ++
        (T.representations.map fun r => ((r.chainId, cm.toLowercase r.address),
          computeCanonicalId cm blake2b512 T.symbol)) ++
        TokenConfig.reverseEntries cm blake2b512 ⟨post⟩ := by
    simp [TokenConfig.reverseEntries]
  rw [getCanonicalId, toLowercase_load, reverseLookup_load, hsplit, insertAll_append, ha,
    insertAll_of_not_mem _ (by rwa [TokenConfig.map_fst_reverseEntries]), insertAll_append]
  refine insertAll_of_forall _ (List.mem_map.mpr ⟨r, hr, rfl⟩) fun e he _ => ?_
  obtain ⟨r', -, rfl⟩ := List.mem_map.mp he
  rfl

end TokenRegistry

/-- The USDC definition of `test_token_registry_loading`: one address on Ethereum, another
on Base. -/
def TokenDefinition.usdc : TokenDefinition :=
  ⟨"USDC", "USD Coin", 6,
    [⟨1, "Ethereum", "0xA0b86991c6218b36c1d19D4a2e9Eb0cE3606eB48", none, false, none⟩,
      ⟨8453, "Base", "0x833589fCD6eDb6E08f4c7C32D4f71b54bdA02913", none, false, none⟩]⟩

/-- The registry file of `test_token_registry_loading`: ETH at the zero address on Ethereum
and Base, then USDC. -/
def TokenConfig.sample : TokenConfig :=
  ⟨[⟨"ETH", "Ethereum", 18,
      [⟨1, "Ethereum", "0x0000000000000000000000000000000000000000", none, true, none⟩,
        ⟨8453, "Base", "0x0000000000000000000000000000000000000000", none, true, none⟩]⟩,
    .usdc]⟩

/-- In the test file, with the identity as the hash, the lower-cased USDC address on Base
resolves to the listed representation. -/
theorem load_resolves_listed_sample :
    (TokenConfig.sample.addressKeys .ascii).Nodup ∧ TokenDefinition.usdc ∈ TokenConfig.sample.tokens ∧
    (⟨8453, "Base", "0x833589fCD6eDb6E08f4c7C32D4f71b54bdA02913", none, false, none⟩ :
      TokenRepresentation) ∈ TokenDefinition.usdc.representations ∧
    (TokenRegistry.load .ascii id .sample).getTokenForChain 8453
      "0x833589fcd6edb6e08f4c7c32d4f71b54bda02913" =
      .ok ⟨8453, "Base", "0x833589fCD6eDb6E08f4c7C32D4f71b54bdA02913", 6, false, none⟩ :=
  ⟨by decide, by decide, by decide,
    (TokenRegistry.load_resolves_listed .ascii id .sample (by decide) .usdc (by decide)
      ⟨8453, "Base", "0x833589fCD6eDb6E08f4c7C32D4f71b54bdA02913", none, false, none⟩ (by decide)
      "0x833589fcd6edb6e08f4c7c32d4f71b54bda02913" (by decide)).2.2 (by decide) (by decide)⟩

/-- USDC on Polygon under one definition, at two addresses on chain 137: native USDC, then
the bridged USDC.e. -/
def TokenDefinition.polygonUsdc : TokenDefinition :=
  ⟨"USDC", "USD Coin", 6,
    [⟨137, "Polygon", "0x3c499c542cEF5E3811e1192ce70d8cC03d5c3359", none, false, none⟩,
      ⟨137, "Polygon", "0x2791Bca1f2de4661ED88A30C99A7a9449Aa84174", none, false, none⟩]⟩

/-- A registry file of that one definition. -/
def TokenConfig.polygonUsdc : TokenConfig := ⟨[.polygonUsdc]⟩

/-- **The second representation is never returned.** The file lists no pair twice, yet, with
the identity as the hash, the USDC.e address resolves to native USDC's representation. -/
theorem second_representation_not_returned :
    (TokenConfig.polygonUsdc.addressKeys .ascii).Nodup ∧
    (TokenRegistry.load .ascii id .polygonUsdc).getTokenForChain 137
        "0x2791Bca1f2de4661ED88A30C99A7a9449Aa84174" =
      .ok ⟨137, "Polygon", "0x3c499c542cEF5E3811e1192ce70d8cC03d5c3359", 6, false, none⟩ := by
  have hkeys : (TokenConfig.polygonUsdc.addressKeys .ascii).Nodup := by decide
  have hid : (TokenRegistry.load .ascii id .polygonUsdc).getCanonicalId 137
      "0x2791Bca1f2de4661ED88A30C99A7a9449Aa84174" =
      some (computeCanonicalId .ascii id TokenDefinition.polygonUsdc.symbol) :=
    TokenRegistry.getCanonicalId_load_of_mem .ascii id hkeys (List.mem_singleton_self _)
      (show (⟨137, "Polygon", "0x2791Bca1f2de4661ED88A30C99A7a9449Aa84174", none, false, none⟩ :
        TokenRepresentation) ∈ TokenDefinition.polygonUsdc.representations by decide) rfl
  refine ⟨hkeys, ?_⟩
  rw [TokenRegistry.getTokenForChain_load_eq hid (by rw [TokenRegistry.mappings_load_eq]; rfl)]
  rfl

/-- USDC on Polygon, listed at the bridged USDC.e address. -/
def TokenDefinition.usdcPolygon : TokenDefinition :=
  ⟨"USDC", "USD Coin", 6,
    [⟨137, "Polygon", "0x2791Bca1f2de4661ED88A30C99A7a9449Aa84174", none, false, none⟩]⟩

/-- USDC.e on Polygon, at its address in lower case. -/
def TokenDefinition.usdcE : TokenDefinition :=
  ⟨"USDC.e", "Bridged USDC", 6,
    [⟨137, "Polygon", "0x2791bca1f2de4661ed88a30c99a7a9449aa84174", none, false, none⟩]⟩

/-- A registry file that lists the USDC.e address on Polygon twice: under USDC, then under
USDC.e. -/
def TokenConfig.aliased : TokenConfig := ⟨[.usdcPolygon, .usdcE]⟩

/-- **An alias is loaded without an error.** The two definitions have different canonical ids
under the identity hash, yet `load` returns a registry, and in it the USDC address on Polygon
resolves to USDC.e, not to USDC. -/
theorem alias_loaded_silently :
    computeCanonicalId .ascii id "USDC" ≠ computeCanonicalId .ascii id "USDC.e" ∧
    (TokenRegistry.load .ascii id .aliased).getCanonicalId 137
        "0x2791Bca1f2de4661ED88A30C99A7a9449Aa84174" = some (computeCanonicalId .ascii id "USDC.e") :=
  ⟨by decide, by decide⟩

end ZeroBridge
