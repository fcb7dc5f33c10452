import Lifeline.Config.Basic
/-! The delays held against exact arithmetic. A policy means the initial delay doubled once per
earlier attempt, up to the cap. The delays keep to that as long as the factor has 32 bits; behind
that they are the cap, which is what the policy means only if doubling has reached the cap by then. -/
namespace Lifeline

namespace ReconnectPolicy

/-- The delay that the policy means, in nanoseconds of which there may be any number. -/
def idealNanos (p : ReconnectPolicy) (attempt : Nat) : Nat :=
  min (p.initialDelay.nanos * Nat.pow 2 attempt) p.maxDelay.nanos

/-- The delay before an attempt is what the policy means. -/
def IsIdealAt (p : ReconnectPolicy) (attempt : UInt32) : Prop :=
  (p.delayFor attempt).nanos = p.idealNanos attempt.toNat

variable (p : ReconnectPolicy) {n : UInt32}

theorem isIdealAt_of_lt (h : n.toNat < 32) : p.IsIdealAt n := p.nanos_delayFor_of_lt h

theorem isIdealAt_iff_of_le (h : 32 ≤ n.toNat) :
    p.IsIdealAt n ↔ p.maxDelay.nanos ≤ p.initialDelay.nanos * Nat.pow 2 n.toNat := by
  rw [IsIdealAt, p.delayFor_of_le h, idealNanos]
  omega

theorem isIdealAt_iff (n : UInt32) : p.IsIdealAt n ↔
    n.toNat < 32 ∨ p.maxDelay.nanos ≤ p.initialDelay.nanos * Nat.pow 2 n.toNat := by
  by_cases h : n.toNat < 32
  · exact ⟨fun _ => .inl h, fun _ => p.isIdealAt_of_lt h⟩
  · rw [p.isIdealAt_iff_of_le (Nat.not_lt.mp h), or_iff_right h]

/-- The first attempt that needs a longer factor decides about all. -/
theorem forall_isIdealAt_iff :
    (∀ n, p.IsIdealAt n) ↔ p.maxDelay.nanos ≤ p.initialDelay.nanos * Nat.pow 2 32 := by
  constructor
  · intro h
    have hfirst : 32 ≤ (32 : UInt32).toNat := by decide
    exact (p.isIdealAt_iff_of_le hfirst).mp (h 32)
  · intro hcap n
    by_cases hn : n.toNat < 32
    · exact p.isIdealAt_of_lt hn
    · have hle : 32 ≤ n.toNat := Nat.not_lt.mp hn
      have hpow : Nat.pow 2 32 ≤ Nat.pow 2 n.toNat := Nat.pow_le_pow_right (by decide) hle
      exact (p.isIdealAt_iff_of_le hle).mpr
        (Nat.le_trans hcap (Nat.mul_le_mul_left p.initialDelay.nanos hpow))

/-- No delay is shorter than what the policy means. -/
theorem idealNanos_le_nanos_delayFor (n : UInt32) :
    p.idealNanos n.toNat ≤ (p.delayFor n).nanos := by
  by_cases h : n.toNat < 32
  · exact Nat.le_of_eq (p.isIdealAt_of_lt h).symm
  · rw [p.delayFor_of_le (Nat.not_lt.mp h)]
    exact Nat.min_le_right _ _

end ReconnectPolicy

/-- It makes no difference that the delays are configured in milliseconds. -/
theorem ConnectionConfig.forall_isIdealAt_iff (c : ConnectionConfig) :
    (∀ n, c.clientConfig.reconnect.IsIdealAt n) ↔
      c.maxDelayMs.toNat ≤ c.initialDelayMs.toNat * Nat.pow 2 32 := by
  have hpow : Nat.pow 2 32 = 4294967296 := rfl
  rw [ReconnectPolicy.forall_isIdealAt_iff, hpow]
  simp only [clientConfig, Duration.ofMillis]
  omega

namespace ReconnectPolicy

/-- For the first thirty-two attempts the delay is the initial delay doubled once per earlier
attempt, or the cap when that is smaller; for later ones it is the cap, and so never too short. It
is what the policy means if and only if the attempt is one of the first or doubling has reached the
cap by then. So it is that for all attempts if and only if the cap is at most `2 ^ 32` times the
initial delay, as they are or as they were configured. -/
theorem delayFor_ideal_iff (p : ReconnectPolicy) :
    (∀ n, (p.delayFor n).nanos =
      if n.toNat < 32 then p.idealNanos n.toNat else p.maxDelay.nanos) ∧
      (∀ n, p.idealNanos n.toNat ≤ (p.delayFor n).nanos) ∧
      (∀ n, p.IsIdealAt n ↔
        n.toNat < 32 ∨ p.maxDelay.nanos ≤ p.initialDelay.nanos * Nat.pow 2 n.toNat) ∧
      ((∀ n, p.IsIdealAt n) ↔ p.maxDelay.nanos ≤ p.initialDelay.nanos * Nat.pow 2 32) ∧
      ∀ c : ConnectionConfig, (∀ n, c.clientConfig.reconnect.IsIdealAt n) ↔
        c.maxDelayMs.toNat ≤ c.initialDelayMs.toNat * Nat.pow 2 32 := by
  refine ⟨?_, p.idealNanos_le_nanos_delayFor, p.isIdealAt_iff, p.forall_isIdealAt_iff,
    ConnectionConfig.forall_isIdealAt_iff⟩
  intro n
  split
  · rename_i hn
    exact p.isIdealAt_of_lt hn
  · rename_i hn
    rw [p.delayFor_of_le (Nat.not_lt.mp hn)]

/-- With an initial delay of one millisecond and a cap of `2 ^ 33`, settings that are not refused,
doubling would reach half of the cap at the thirty-third attempt, and the delay is the cap. -/
theorem delayFor_ideal_iff_early_cap :
    let c := { ConnectionConfig.standard with initialDelayMs := 1, maxDelayMs := 8589934592 }
    let p := c.clientConfig.reconnect
    c.validate = .ok () ∧ p.idealNanos 32 = (Duration.ofMillis 4294967296).nanos ∧
      p.delayFor 32 = .ofMillis 8589934592 ∧ ¬p.IsIdealAt 32 := by
  intro c p
  have hvalid : c.validate = .ok () :=
    ConnectionConfig.validate_eq_ok_iff.mpr ⟨by decide +kernel, by decide, by decide, by decide⟩
  exact ⟨hvalid, by decide +kernel, by decide +kernel, by unfold IsIdealAt; decide +kernel⟩

end ReconnectPolicy

end Lifeline
