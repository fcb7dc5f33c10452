import Lifeline.Duration
/-! How long to wait before the next connection attempt, and how many attempts are allowed. -/
namespace Lifeline

structure ReconnectPolicy where
  initialDelay : Duration
  maxDelay : Duration
  maxAttempts : UInt32
deriving DecidableEq, Repr

namespace ReconnectPolicy

/-- One second at first, thirty at most, a thousand times. -/
def standard : ReconnectPolicy where
  initialDelay := .ofSeconds 1
  maxDelay := .ofSeconds 30
  maxAttempts := 1000

/-- The initial delay doubled once per earlier attempt, or the cap when that is smaller, when the
factor needs more than 32 bits, or when the product exceeds the longest span. -/
def delayFor (p : ReconnectPolicy) (attempt : UInt32) : Duration :=
  if attempt.toNat < 32 then
    match p.initialDelay.times? (Nat.pow 2 attempt.toNat) with
    | some d => min d p.maxDelay
    | none => p.maxDelay
  else p.maxDelay

def allows (p : ReconnectPolicy) (attempts : UInt32) : Bool := attempts < p.maxAttempts

theorem delayFor_le_maxDelay (p : ReconnectPolicy) (n : UInt32) : p.delayFor n ≤ p.maxDelay := by
  unfold delayFor
  split
  · split
    · rw [Duration.le_def, Duration.nanos_min]; exact Nat.min_le_right _ _
    · exact Nat.le_refl _
  · exact Nat.le_refl _

section

variable (p : ReconnectPolicy) {a b n : UInt32}

theorem nanos_delayFor_of_lt (h : n.toNat < 32) :
    (p.delayFor n).nanos = min (p.initialDelay.nanos * Nat.pow 2 n.toNat) p.maxDelay.nanos := by
  unfold delayFor
  rw [if_pos h]
  split
  · rename_i d hd
    rw [Duration.nanos_min, Duration.ofNanos?_eq_some_iff.mp hd]
  · rename_i hnone
    have hover := Duration.ofNanos?_eq_none_iff.mp hnone
    have hcap := p.maxDelay.nanos_le
    rw [Nat.min_eq_right (Nat.le_trans hcap (Nat.le_of_lt hover))]

theorem delayFor_of_le (h : 32 ≤ n.toNat) : p.delayFor n = p.maxDelay := by
  unfold delayFor
  rw [if_neg (Nat.not_lt.mpr h)]

theorem delayFor_mono (h : a ≤ b) : p.delayFor a ≤ p.delayFor b := by
  have hnat := UInt32.le_iff_toNat_le.mp h
  by_cases hb : b.toNat < 32
  · have hpow : Nat.pow 2 a.toNat ≤ Nat.pow 2 b.toNat := Nat.pow_le_pow_right (by decide) hnat
    have hmul := Nat.mul_le_mul_left p.initialDelay.nanos hpow
    rw [Duration.le_def, p.nanos_delayFor_of_lt (Nat.lt_of_le_of_lt hnat hb),
      p.nanos_delayFor_of_lt hb]
    omega
  · rw [p.delayFor_of_le (Nat.not_lt.mp hb)]
    exact p.delayFor_le_maxDelay a

theorem initialDelay_le_delayFor (h : p.initialDelay ≤ p.maxDelay) (n : UInt32) :
    p.initialDelay ≤ p.delayFor n := by
  by_cases hn : n.toNat < 32
  · have hpow : 0 < Nat.pow 2 n.toNat := Nat.pow_pos (by decide)
    have hmul := Nat.le_mul_of_pos_right p.initialDelay.nanos hpow
    rw [Duration.le_def, p.nanos_delayFor_of_lt hn]
    exact Nat.le_min.mpr ⟨hmul, h⟩
  · rw [p.delayFor_of_le (Nat.not_lt.mp hn)]
    exact h

end

end ReconnectPolicy

end Lifeline
