import ObservationFeed.Config
import ObservationFeed.Interval

/-!
# Settings that are accepted

What settings that break no rule promise to those who run with them: the time
between two keepalives, the window after which a registration expires, and the
interval of the demonstration's subscription.  The rules rule out zeros only, and
two of them stop short of what is asked for.
-/

namespace ObservationFeed

theorem Interval.isSome_ofNat? {n : Nat} : (ofNat? n).isSome ↔ 1 ≤ n ∧ n ≤ maxTicks := by
  unfold ofNat?
  split <;> simp [*]

namespace Config

/-! ## The rules -/

/-- Settings that break no rule have nothing in them that is zero. -/
theorem violation?_eq_none {c : Config} :
    c.violation? = none ↔
      0 < c.server.tickInterval.toNat ∧ 0 < c.server.maxAgeTicks.toNat ∧
        positiveRange c.server.interactionRange ∧ 0 < c.client.tickDurationMs.toNat ∧
        0 < c.engine.subscribeInterval.toNat := by
  have small (n : UInt32) : n = 0 ↔ n.toNat = 0 := UInt32.toNat_inj.symm
  have large (n : UInt64) : n = 0 ↔ n.toNat = 0 := UInt64.toNat_inj.symm
  simp only [violation?, small, large, Nat.pos_iff_ne_zero]
  -- One case for each rule, in which it is broken, and one in which all are kept.
  repeat' split
  all_goals simp_all

/-! ## The keepalive -/

/-- The ticks between two keepalives, rounded down, are none only if a registration lasts one
tick, for then two thirds of it are none. -/
theorem keepaliveMs_pos {c : Config} (ticking : 0 < c.client.tickDurationMs.toNat) :
    0 < c.keepaliveMs ↔ 2 ≤ c.server.maxAgeTicks.toNat := by
  have ticks : 0 < min (c.server.maxAgeTicks.toNat * 2) maxUInt64 / 3 ↔
      2 ≤ c.server.maxAgeTicks.toNat := by
    simp only [maxUInt64]
    omega
  rw [← ticks, keepaliveMs, Nat.lt_min, Nat.mul_pos_iff_of_pos_right ticking]
  exact and_iff_left (by decide)

/-- Stopping at the largest number only makes a product smaller, so two thirds of the window stay
short of it. -/
theorem keepaliveMs_lt_window {c : Config} (lasting : 0 < c.server.maxAgeTicks.toNat)
    (ticking : 0 < c.client.tickDurationMs.toNat) :
    c.keepaliveMs < c.server.maxAgeTicks.toNat * c.client.tickDurationMs.toNat := by
  have ticks : min (c.server.maxAgeTicks.toNat * 2) maxUInt64 / 3 < c.server.maxAgeTicks.toNat := by
    omega
  calc c.keepaliveMs
      ≤ min (c.server.maxAgeTicks.toNat * 2) maxUInt64 / 3 * c.client.tickDurationMs.toNat :=
        Nat.min_le_left ..
    _ < c.server.maxAgeTicks.toNat * c.client.tickDurationMs.toNat :=
        Nat.mul_lt_mul_of_pos_right ticks ticking

/-! ## What is accepted -/

/-- Settings that are accepted keep the keepalive short of the window.  There is time between two
keepalives exactly if a registration lasts two ticks, and the interval is one that can be asked
for exactly if it is not too long, neither of which the rules see to. -/
theorem accepted_settings {c : Config} (accepted : c.violation? = none) :
    (0 < c.keepaliveMs ↔ 2 ≤ c.server.maxAgeTicks.toNat) ∧
    c.keepaliveMs < c.server.maxAgeTicks.toNat * c.client.tickDurationMs.toNat ∧
    ((Interval.ofNat? c.engine.subscribeInterval.toNat).isSome ↔
      c.engine.subscribeInterval.toNat ≤ Interval.maxTicks) := by
  obtain ⟨-, lasting, -, ticking, asked⟩ := violation?_eq_none.mp accepted
  refine ⟨keepaliveMs_pos ticking, keepaliveMs_lt_window lasting ticking, ?_⟩
  rw [Interval.isSome_ofNat?]
  exact and_iff_right asked

theorem accepted_settings_of_usual :
    let c : Config := {}
    0 < c.keepaliveMs ∧ c.keepaliveMs < 90000 ∧
      (Interval.ofNat? c.engine.subscribeInterval.toNat).isSome := by
  intro c
  obtain ⟨period, window, interval⟩ := accepted_settings (c := c) (by decide +kernel +zetaReduce)
  have product : c.server.maxAgeTicks.toNat * c.client.tickDurationMs.toNat = 90000 := by
    decide +kernel +zetaReduce
  exact ⟨period.mpr (by decide +kernel +zetaReduce), product ▸ window,
    interval.mpr (by decide +kernel +zetaReduce)⟩

/-- Settings are accepted with which no time passes between two keepalives, and settings with an
interval that nobody can ask for. -/
theorem accepted_without_period_or_interval :
    let brief : Config := { server.maxAgeTicks := 1 }
    let slow : Config := { engine.subscribeInterval := 72001 }
    (brief.violation? = none ∧ brief.keepaliveMs = 0) ∧
      slow.violation? = none ∧ Interval.ofNat? slow.engine.subscribeInterval.toNat = none := by
  decide +kernel +zetaReduce

end Config

end ObservationFeed
