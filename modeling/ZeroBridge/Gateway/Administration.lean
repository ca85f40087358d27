import ZeroBridge.Gateway.Near
import ZeroBridge.Gateway.Osmosis
import ZeroBridge.Gateway.Solana

/-!
# Who can change a gateway

Each gateway has an owner (at Solana, the `authority` of the gateway account), fixed when it
is created, and a few settings only the owner may change: the coordinator's key, the pause
flag, and the bridge fee (at Osmosis also the liquidity providers). Every other entry point
starts with the pause check. From the inversion lemmas of each gateway (`Near.call_cases`,
`Osmosis.execute_cases`, `Solana.execute_settings`) this gives two properties of whole runs.

**Only the owner configures a gateway** (`gateway_settings_owner_only`): the owner never
changes; along a run in which the owner sends nothing, the settings stay as they were; and a
fee of at most 100 basis points, as the gateways start with, stays so.

**The pause freezes a gateway** (`paused_gateway_frozen`): in a paused gateway every
transaction not sent by the owner fails, so any run of them leaves every account as it was.
-/

namespace ZeroBridge

namespace Near

variable {host : Host}

/-- A call keeps the owner; it is the owner's, or it keeps the coordinator, the pause flag
and the fee; and a fee it sets is at most 100 basis points. -/
theorem call_settings {g g' : NEARGateway} {ctx : Context} {m : Method} {out : Output}
    (h : call host g ctx m = .ok (g', out)) :
    g'.owner = g.owner ∧
      (ctx.predecessor = g.owner ∨
        g.paused = false ∧ g'.coordinator = g.coordinator ∧ g'.paused = g.paused ∧
          g'.bridgeFee = g.bridgeFee) ∧
      (g'.bridgeFee = g.bridgeFee ∨ g'.bridgeFee ≤ 100) := by
  rcases call_cases h with ⟨ho, -, ⟨_, rfl⟩ | ⟨_, rfl⟩ | ⟨f, hf, rfl⟩⟩ |
    ⟨hp, ho, hc, hpa, hf, -⟩
  · exact ⟨rfl, .inl ho, .inl rfl⟩
  · exact ⟨rfl, .inl ho, .inl rfl⟩
  · exact ⟨rfl, .inl ho, .inr hf⟩
  · exact ⟨ho, .inr ⟨hp, hc, hpa, hf⟩, .inl hf⟩

theorem step_settings (g : NEARGateway) (c : Call) :
    (step host g c).owner = g.owner ∧
      (c.ctx.predecessor = g.owner ∨
        g.paused = false ∧ (step host g c).coordinator = g.coordinator ∧
          (step host g c).paused = g.paused ∧ (step host g c).bridgeFee = g.bridgeFee ∨
        step host g c = g) ∧
      ((step host g c).bridgeFee = g.bridgeFee ∨ (step host g c).bridgeFee ≤ 100) := by
  unfold step
  rcases hc : call host g c.ctx c.method with e | ⟨g', out⟩
  · exact ⟨rfl, .inr (.inr rfl), .inl rfl⟩
  · obtain ⟨ho, hs | hs, hf⟩ := call_settings hc
    · exact ⟨ho, .inl hs, hf⟩
    · exact ⟨ho, .inr (.inl hs), hf⟩

end Near

namespace Osmosis

variable {host : Host}

theorem step_settings (s : State) (c : Call) :
    (step host s c).config.owner = s.config.owner ∧
      (c.info.sender = s.config.owner ∨
        s.config.paused = false ∧ (step host s c).config = s.config ∧
          (step host s c).liquidityProviders = s.liquidityProviders ∨
        step host s c = s) ∧
      ((step host s c).config.bridgeFee = s.config.bridgeFee ∨
        (step host s c).config.bridgeFee ≤ 100) := by
  unfold step
  rcases hc : execute host s c.time c.info c.msg with e | ⟨s', ts⟩
  · exact ⟨rfl, .inr (.inr rfl), .inl rfl⟩
  · rcases execute_cases hc with ⟨ho, hown, -, hf, -⟩ | ⟨hp, hcfg, hlp, -⟩
    · exact ⟨hown, .inl ho, hf⟩
    · exact ⟨by rw [hcfg], .inr (.inl ⟨hp, hcfg, hlp⟩), .inl (by rw [hcfg])⟩

end Osmosis

namespace Solana

variable {host : Host}

theorem step_settings (p : Program) (c : Int × Instruction) :
    (step host p c).gateway.authority = p.gateway.authority ∧
      (c.2.authority? = some p.gateway.authority ∨
        p.gateway.paused = false ∧ (step host p c).gateway.coordinator = p.gateway.coordinator ∧
          (step host p c).gateway.paused = p.gateway.paused ∨
        step host p c = p) := by
  unfold step
  rcases hc : execute host p c.1 c.2 with e | p'
  · exact ⟨rfl, .inr (.inr rfl)⟩
  · obtain ⟨ha, hs | hs⟩ := execute_settings hc
    · exact ⟨ha, .inl hs⟩
    · exact ⟨ha, .inr (.inl hs)⟩

end Solana

/-- **Only the owner configures a gateway.** Along every run of every gateway, failing
transactions reverting: the owner (at Solana, the authority) never changes; when the owner
sends none of the run's transactions (at Solana, signs none of its admin instructions), the
coordinator, the pause flag and the fee (at Osmosis, the whole configuration and the
liquidity providers) end as they began; and a fee of at most 100 basis points stays so. -/
theorem gateway_settings_owner_only :
    (∀ (host : Near.Host) (g : Near.NEARGateway) (calls : List Near.Call),
      (Near.run host g calls).owner = g.owner ∧
      ((∀ c ∈ calls, c.ctx.predecessor ≠ g.owner) →
        (Near.run host g calls).coordinator = g.coordinator ∧
          (Near.run host g calls).paused = g.paused ∧
          (Near.run host g calls).bridgeFee = g.bridgeFee) ∧
      (g.bridgeFee ≤ 100 → (Near.run host g calls).bridgeFee ≤ 100)) ∧
    (∀ (host : Osmosis.Host) (s : Osmosis.State) (calls : List Osmosis.Call),
      (Osmosis.run host s calls).config.owner = s.config.owner ∧
      ((∀ c ∈ calls, c.info.sender ≠ s.config.owner) →
        (Osmosis.run host s calls).config = s.config ∧
          (Osmosis.run host s calls).liquidityProviders = s.liquidityProviders) ∧
      (s.config.bridgeFee ≤ 100 → (Osmosis.run host s calls).config.bridgeFee ≤ 100)) ∧
    (∀ (host : Solana.Host) (p : Solana.Program) (calls : List (Int × Solana.Instruction)),
      (Solana.run host p calls).gateway.authority = p.gateway.authority ∧
      ((∀ c ∈ calls, c.2.authority? ≠ some p.gateway.authority) →
        (Solana.run host p calls).gateway.coordinator = p.gateway.coordinator ∧
          (Solana.run host p calls).gateway.paused = p.gateway.paused)) := by
  refine ⟨fun host g calls => ⟨?_, fun hno => ?_, fun hf => ?_⟩,
    fun host s calls => ⟨?_, fun hno => ?_, fun hf => ?_⟩,
    fun host p calls => ⟨?_, fun hno => ?_⟩⟩
  · exact List.foldlRecOn (motive := fun b => b.owner = g.owner) calls (Near.step host) g rfl
      fun b hb c _ => (Near.step_settings b c).1.trans hb
  · refine (List.foldlRecOn (motive := fun b => b.owner = g.owner ∧ b.coordinator = g.coordinator ∧
      b.paused = g.paused ∧ b.bridgeFee = g.bridgeFee) calls (Near.step host) g
      ⟨rfl, rfl, rfl, rfl⟩ fun b ⟨ho, hc, hp, hf⟩ c hmem => ?_).2
    obtain ⟨ho', hs | ⟨-, hc', hp', hf'⟩ | hs, -⟩ := @Near.step_settings host b c
    · exact absurd (hs.trans ho) (hno c hmem)
    · exact ⟨ho'.trans ho, hc'.trans hc, hp'.trans hp, hf'.trans hf⟩
    · rw [hs]; exact ⟨ho, hc, hp, hf⟩
  · exact List.foldlRecOn (motive := fun b => b.bridgeFee ≤ 100) calls (Near.step host) g hf
      fun b hb c _ => (@Near.step_settings host b c).2.2.elim (·.trans_le hb) id
  · exact List.foldlRecOn (motive := fun b => b.config.owner = s.config.owner) calls
      (Osmosis.step host) s rfl fun b hb c _ => (Osmosis.step_settings b c).1.trans hb
  · refine (List.foldlRecOn (motive := fun b => b.config = s.config ∧
      b.liquidityProviders = s.liquidityProviders) calls (Osmosis.step host) s ⟨rfl, rfl⟩
      fun b ⟨hc, hl⟩ c hmem => ?_)
    obtain ⟨-, hs | ⟨-, hc', hl'⟩ | hs, -⟩ := @Osmosis.step_settings host b c
    · exact absurd (hc ▸ hs) (hno c hmem)
    · exact ⟨hc'.trans hc, hl'.trans hl⟩
    · rw [hs]; exact ⟨hc, hl⟩
  · exact List.foldlRecOn (motive := fun b => b.config.bridgeFee ≤ 100) calls (Osmosis.step host)
      s hf fun b hb c _ => (@Osmosis.step_settings host b c).2.2.elim (·.trans_le hb) id
  · exact List.foldlRecOn (motive := fun b => b.gateway.authority = p.gateway.authority) calls
      (Solana.step host) p rfl fun b hb c _ => (Solana.step_settings b c).1.trans hb
  · refine (List.foldlRecOn (motive := fun b => b.gateway.authority = p.gateway.authority ∧
      b.gateway.coordinator = p.gateway.coordinator ∧ b.gateway.paused = p.gateway.paused) calls
      (Solana.step host) p ⟨rfl, rfl, rfl⟩ fun b ⟨ha, hc, hp⟩ c hmem => ?_).2
    obtain ⟨ha', hs | ⟨-, hc', hp'⟩ | hs⟩ := @Solana.step_settings host b c
    · exact absurd (ha ▸ hs) (hno c hmem)
    · exact ⟨ha'.trans ha, hc'.trans hc, hp'.trans hp⟩
    · rw [hs]; exact ⟨ha, hc, hp⟩

/-- **The pause freezes a gateway.** In a paused gateway, every transaction that the owner
does not send (at Solana, every instruction that is not an admin instruction signed by the
authority) fails, so every run of them leaves the gateway's state as it was. -/
theorem paused_gateway_frozen :
    (∀ (host : Near.Host) (g : Near.NEARGateway) (calls : List Near.Call), g.paused = true →
      (∀ c ∈ calls, c.ctx.predecessor ≠ g.owner) → Near.run host g calls = g) ∧
    (∀ (host : Osmosis.Host) (s : Osmosis.State) (calls : List Osmosis.Call),
      s.config.paused = true → (∀ c ∈ calls, c.info.sender ≠ s.config.owner) →
      Osmosis.run host s calls = s) ∧
    (∀ (host : Solana.Host) (p : Solana.Program) (calls : List (Int × Solana.Instruction)),
      p.gateway.paused = true → (∀ c ∈ calls, c.2.authority? ≠ some p.gateway.authority) →
      Solana.run host p calls = p) := by
  refine ⟨fun host g calls hp hno => ?_, fun host s calls hp hno => ?_,
    fun host p calls hp hno => ?_⟩
  · refine List.foldlRecOn (motive := fun b => b = g) calls (Near.step host) g rfl ?_
    rintro b rfl c hmem
    obtain ⟨-, hs | ⟨hf, -⟩ | hs, -⟩ := @Near.step_settings host b c
    · exact absurd hs (hno c hmem)
    · exact absurd (hp.symm.trans hf) Bool.noConfusion
    · exact hs
  · refine List.foldlRecOn (motive := fun b => b = s) calls (Osmosis.step host) s rfl ?_
    rintro b rfl c hmem
    obtain ⟨-, hs | ⟨hf, -⟩ | hs, -⟩ := @Osmosis.step_settings host b c
    · exact absurd hs (hno c hmem)
    · exact absurd (hp.symm.trans hf) Bool.noConfusion
    · exact hs
  · refine List.foldlRecOn (motive := fun b => b = p) calls (Solana.step host) p rfl ?_
    rintro b rfl c hmem
    obtain ⟨-, hs | ⟨hf, -⟩ | hs⟩ := @Solana.step_settings host b c
    · exact absurd hs (hno c hmem)
    · exact absurd (hp.symm.trans hf) Bool.noConfusion
    · exact hs

end ZeroBridge
