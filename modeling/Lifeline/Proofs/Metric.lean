import Mathlib.Data.List.Induction
import Lifeline.Metric
import Lifeline.Proofs.Binary64
/-! What the totals are made of. A counter holds how often it was counted, the gauge and the
histogram hold figures of what they were handed, and the figure of a delay is the delay but for
rounding. -/
namespace Lifeline

namespace Metric

def retries? : Metric → Option UInt32
  | retries n => some n
  | _ => none

def delay? : Metric → Option Duration
  | delay d => some d
  | _ => none

attribute [simp] retries? delay?

end Metric

namespace Totals

variable (ms : List Metric)

theorem ofList_concat (m : Metric) : ofList (ms ++ [m]) = (ofList ms).add m := by
  simp [ofList]

/-- A counter holds how often it was counted. -/
theorem counts_ofList (c : Counter) : (ofList ms).counts c = ms.count (.count c) := by
  induction ms using List.reverseRecOn with
  | nil => rfl
  | append_singleton ms m ih =>
    rw [ofList_concat, List.count_append, ← ih]
    cases m with
    | count d =>
      by_cases h : c = d
      · simp [add, h]
      · simp [add, h, Ne.symm h]
    | _ => simp [add]

/-- The gauge shows the value that it took last. -/
theorem retries_ofList : (ofList ms).retries = (ms.filterMap Metric.retries?).getLast? := by
  induction ms using List.reverseRecOn with
  | nil => rfl
  | append_singleton ms m ih =>
    rw [ofList_concat, List.filterMap_append, List.getLast?_append, ← ih]
    cases m <;> rfl

/-- The histogram was handed all delays, in order. -/
theorem delays_ofList : (ofList ms).delays = ms.filterMap Metric.delay? := by
  induction ms using List.reverseRecOn with
  | nil => rfl
  | append_singleton ms m ih =>
    rw [ofList_concat, List.filterMap_append, ← ih]
    cases m <;> simp [add]

/-- What the gauge shows is the figure of what it was handed. -/
theorem gauge_ofList : (ofList ms).gauge = (ofList ms).retries.map fun n => .ofNat n.toNat := by
  induction ms using List.reverseRecOn with
  | nil => rfl
  | append_singleton ms m ih =>
    rw [ofList_concat]
    cases m
    case retries => rfl
    all_goals exact ih

/-- No number of retries is rounded. A gauge that was handed none shows zero. -/
theorem number?_gauge :
    (ofList ms).gauge.elim (some 0) Binary64.number? =
      some (((ofList ms).retries.getD 0).toNat : ℚ) := by
  rw [gauge_ofList]
  cases (ofList ms).retries with
  | none => simp
  | some n => exact Binary64.number?_ofNat (n.toNat_lt.trans (by decide))

/-- What the histogram holds are the figures of what it was handed. -/
theorem histogram_ofList :
    (ofList ms).histogram = (ofList ms).delays.map Duration.millisFigure := by
  induction ms using List.reverseRecOn with
  | nil => rfl
  | append_singleton ms m ih =>
    rw [ofList_concat]
    cases m
    case delay => simp [add, ih]
    all_goals exact ih

end Totals

/-! ## The figure of a delay -/

namespace Duration

open Binary64

variable (d : Duration)

/-- A delay in milliseconds, without rounding. -/
def millis : ℚ := d.nanos / 10 ^ 6

theorem millis_nonneg : 0 ≤ d.millis := by
  unfold millis
  positivity

theorem nanos_le_two_pow : d.nanos ≤ 2 ^ 94 := d.nanos_le.trans (by decide)

theorem wholeSeconds_le : d.wholeSeconds ≤ 2 ^ 64 := by
  have hle := d.nanos_le
  unfold limit at hle
  unfold wholeSeconds
  omega

theorem subsecond_lt : d.subsecond < 1000000000 := Nat.mod_lt _ (by decide)

theorem nanos_eq : d.nanos = d.wholeSeconds * 1000000000 + d.subsecond :=
  (Nat.div_add_mod' ..).symm

/-- The fraction of a second is rounded once. -/
theorem near_fraction :
    Near unitError ((Binary64.ofNat d.subsecond).div (Binary64.ofNat 1000000000)).value
      (d.subsecond / 1000000000) := by
  have hsub := d.subsecond_lt
  have hfraction : (Binary64.ofNat d.subsecond).value / (Binary64.ofNat 1000000000).value =
      (d.subsecond / 1000000000 : ℚ) := by
    rw [value_ofNat (by omega), value_ofNat (by norm_num)]
    norm_num
  have hordinary : Ordinary 30 ((d.subsecond : ℚ) / 1000000000) := by
    exact_mod_cast Ordinary.natCast_div (show 0 < 1000000000 by decide)
      (show d.subsecond ≤ 2 ^ 30 by omega) (by decide)
  rw [← hfraction] at hordinary ⊢
  refine near_div _ _ ?_ (by decide) hordinary
  rw [value_ofNat (by norm_num)]
  norm_num

/-- The seconds with their fraction are rounded once more. -/
theorem near_seconds {x y : Binary64} (hx : Near unitError x.value d.wholeSeconds)
    (hy : Near unitError y.value (d.subsecond / 1000000000)) :
    Ordinary 96 (x.add y).value ∧
      Near (unitError + unitError + unitError * unitError) (x.add y).value
        (d.nanos / 1000000000) := by
  have hsum : (d.wholeSeconds : ℚ) + d.subsecond / 1000000000 = d.nanos / 1000000000 := by
    rw [d.nanos_eq]
    push_cast
    ring
  have hordinary : Ordinary 94 ((d.nanos : ℚ) / 1000000000) := by
    exact_mod_cast Ordinary.natCast_div (show 0 < 1000000000 by decide) d.nanos_le_two_pow
      (by decide)
  have hparts := hsum ▸ hx.add hy
  have hwhole := hordinary.of_near hparts
  have hadd := near_add x y (by decide) hwhole
  exact ⟨hwhole.of_near hadd, hadd.trans hparts (by norm_num [unitError])⟩

/-- With the thousandfold the figure is rounded three times. -/
theorem near_value_millisFigure : Near (1 / 2 ^ 51) d.millisFigure.value d.millis := by
  have hthousand : (Binary64.ofNat 1000).value = (1000 : ℕ) := value_ofNat (by norm_num)
  obtain ⟨hordinary, hseconds⟩ := d.near_seconds (near_ofNat (by decide) d.wholeSeconds_le)
    d.near_fraction
  have hscaled := hordinary.mul_natCast (show 0 < 1000 by decide) (show 1000 ≤ 2 ^ 10 by decide)
  have hmillis : (d.nanos : ℚ) / 1000000000 * (1000 : ℕ) = d.millis := by
    rw [millis]
    push_cast
    ring
  have hmul := near_mul ((Binary64.ofNat d.wholeSeconds).add
    ((Binary64.ofNat d.subsecond).div (Binary64.ofNat 1000000000))) (.ofNat 1000) (by decide)
    (hthousand ▸ hscaled)
  rw [hthousand] at hmul
  have hfigure := hmul.trans (hseconds.mul_right (Nat.cast_nonneg 1000)) (by norm_num [unitError])
  rw [hmillis] at hfigure
  exact hfigure.mono d.millis_nonneg (by norm_num [unitError])

/-- A figure is recorded for a delay. It is the delay in milliseconds but for rounding, which leaves
it off by no more than one part in `2 ^ 51`. -/
def Recorded (x : Binary64) : Prop := ∃ r, x.number? = some r ∧ Near (1 / 2 ^ 51) r d.millis

theorem recorded_millisFigure : d.Recorded d.millisFigure := by
  have hnear := d.near_value_millisFigure
  refine ⟨_, number?_nearest ?_, hnear⟩
  have hhigh := (abs_le.mp hnear).2
  have hle : d.millis ≤ 2 ^ 94 :=
    (div_le_self (Nat.cast_nonneg _) (by norm_num)).trans (by exact_mod_cast d.nanos_le_two_pow)
  have hfigure : d.millisFigure.value ≤ 2 * 2 ^ 94 := by linarith [d.millis_nonneg]
  exact hfigure.trans_lt (by norm_num)

end Duration

end Lifeline
