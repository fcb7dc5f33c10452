/-! Spans of time as whole nanoseconds. A span holds at most a 64-bit count of seconds and a
fraction below one second, so multiplying may fail and is checked. -/
namespace Lifeline

/-- One nanosecond short of `2 ^ 64` seconds. -/
def Duration.limit : Nat := 18446744073709551616 * 1000000000 - 1

structure Duration where
  nanos : Nat
  nanos_le : nanos ≤ Duration.limit := by decide
deriving DecidableEq, Repr

namespace Duration

@[ext] theorem ext {a b : Duration} (h : a.nanos = b.nanos) : a = b := by
  cases a; cases b; cases h; rfl

instance : LE Duration := ⟨fun a b => a.nanos ≤ b.nanos⟩

instance (a b : Duration) : Decidable (a ≤ b) := inferInstanceAs (Decidable (a.nanos ≤ b.nanos))

instance : Min Duration := minOfLe

theorem le_def {a b : Duration} : a ≤ b ↔ a.nanos ≤ b.nanos := Iff.rfl

@[simp] theorem nanos_min (a b : Duration) : (min a b).nanos = min a.nanos b.nanos := by
  rw [Nat.min_def]
  by_cases h : a.nanos ≤ b.nanos
  · rw [if_pos h]; exact congrArg nanos (if_pos h)
  · rw [if_neg h]; exact congrArg nanos (if_neg h)

/-- The span of `n` nanoseconds, unless it exceeds the limit. -/
def ofNanos? (n : Nat) : Option Duration :=
  if h : n ≤ limit then some ⟨n, h⟩ else none

/-- Every 64-bit count of milliseconds is a span. -/
def ofMillis (n : UInt64) : Duration where
  nanos := n.toNat * 1000000
  nanos_le := by have := n.toNat_lt; unfold limit; omega

/-- Every 64-bit count of seconds is a span. -/
def ofSeconds (n : UInt64) : Duration where
  nanos := n.toNat * 1000000000
  nanos_le := by have := n.toNat_lt; unfold limit; omega

def times? (d : Duration) (k : Nat) : Option Duration := ofNanos? (d.nanos * k)

theorem ofNanos?_eq_some_iff {n : Nat} {d : Duration} : ofNanos? n = some d ↔ d.nanos = n := by
  unfold ofNanos?
  split
  · rename_i h
    constructor
    · intro e; cases e; rfl
    · intro e; exact congrArg some (ext e.symm)
  · rename_i h
    constructor
    · intro e; cases e
    · intro e; exact absurd (e ▸ d.nanos_le) h

theorem ofNanos?_eq_none_iff {n : Nat} : ofNanos? n = none ↔ limit < n := by
  unfold ofNanos?
  split
  · rename_i h; simp; omega
  · rename_i h; simp; omega

theorem ofMillis_le_ofMillis {a b : UInt64} (h : a ≤ b) : ofMillis a ≤ ofMillis b := by
  have hnat := UInt64.le_iff_toNat_le.mp h
  exact Nat.mul_le_mul_right _ hnat

def wholeSeconds (d : Duration) : Nat := d.nanos / 1000000000

def subsecond (d : Duration) : Nat := d.nanos % 1000000000

def wholeMillis (d : Duration) : Nat := d.nanos / 1000000

@[simp] theorem wholeMillis_ofMillis (n : UInt64) : (ofMillis n).wholeMillis = n.toNat := by
  simp [wholeMillis, ofMillis]

end Duration

end Lifeline
