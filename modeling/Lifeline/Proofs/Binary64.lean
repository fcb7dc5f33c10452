import Mathlib.Algebra.Order.Field.Power
import Mathlib.Data.Nat.Cast.Order.Field
import Mathlib.Data.Rat.Cast.Order
import Mathlib.Tactic.FieldSimp
import Mathlib.Tactic.Linarith
import Mathlib.Tactic.Positivity
import Mathlib.Tactic.Ring
import Lifeline.Binary64.Basic
/-! How far rounding goes astray. A double is a whole number of units, and a ratio is rounded to the
nearest one, so as long as it is neither too small nor too large no more than one part in `2 ^ 53`
is lost of it. A whole number below `2 ^ 53` loses nothing. -/
namespace Lifeline.Binary64

/-- The magnitude that a finite pattern stands for. -/
def value (x : Binary64) : ℚ := x.significand * 2 ^ x.exponent

/-- The number that a pattern stands for; infinities and the patterns behind them stand for none. -/
def number? (x : Binary64) : Option ℚ :=
  if x.pattern < infinityPattern then some (if x.isNegative then -x.value else x.value) else none

/-! ## The nearest integer -/

theorem roundDiv_cases (num den : Nat) :
    roundDiv num den = num / den ∧ 2 * (num % den) ≤ den ∨
      roundDiv num den = num / den + 1 ∧ den ≤ 2 * (num % den) := by
  simp only [roundDiv]
  split
  · exact .inl ⟨rfl, by omega⟩
  · split
    · exact .inr ⟨rfl, by omega⟩
    · rcases Nat.mod_two_eq_zero_or_one (num / den) with h | h
      · exact .inl ⟨by rw [h, Nat.add_zero], by omega⟩
      · exact .inr ⟨by rw [h], by omega⟩

theorem abs_roundDiv_sub_le (num : Nat) {den : Nat} (h : 0 < den) :
    |(roundDiv num den : ℚ) - num / den| ≤ 1 / 2 := by
  have hden : (0 : ℚ) < den := by exact_mod_cast h
  have hsplit : (num : ℚ) / den = (num / den : ℕ) + (num % den : ℕ) / den := by
    have hnum : (num : ℚ) = den * (num / den : ℕ) + (num % den : ℕ) := by
      exact_mod_cast (Nat.div_add_mod num den).symm
    rw [hnum]
    field_simp
  have hlow : (0 : ℚ) ≤ (num % den : ℕ) / den := by positivity
  have hhigh : ((num % den : ℕ) : ℚ) / den ≤ 1 :=
    (div_le_one hden).mpr (by exact_mod_cast (Nat.mod_lt num h).le)
  rw [hsplit, abs_le]
  rcases roundDiv_cases num den with ⟨heq, hr⟩ | ⟨heq, hr⟩
  · have hhalf : ((num % den : ℕ) : ℚ) / den ≤ 1 / 2 := by
      rw [div_le_iff₀ hden]
      have : (2 : ℚ) * (num % den : ℕ) ≤ den := by exact_mod_cast hr
      linarith
    rw [heq]
    constructor <;> linarith
  · have hhalf : (1 : ℚ) / 2 ≤ (num % den : ℕ) / den := by
      rw [le_div_iff₀ hden]
      have : (den : ℚ) ≤ 2 * (num % den : ℕ) := by exact_mod_cast hr
      linarith
    rw [heq]
    push_cast
    constructor <;> linarith

/-! ## The unit -/

variable {num den : Nat}

/-- A ratio is compared to a power of two in whole numbers. -/
theorem div_lt_zpow_iff (hden : 0 < den) (k : Int) :
    (if 0 ≤ k then num < den * Nat.pow 2 k.toNat else num * Nat.pow 2 (-k).toNat < den) ↔
      (num : ℚ) / den < 2 ^ k := by
  have hpos : (0 : ℚ) < den := by exact_mod_cast hden
  rw [div_lt_iff₀ hpos]
  split
  · rename_i h
    obtain ⟨n, rfl⟩ := Int.eq_ofNat_of_zero_le h
    rw [Int.toNat_natCast, zpow_natCast, mul_comm ((2 : ℚ) ^ n)]
    exact_mod_cast Iff.rfl
  · rename_i h
    obtain ⟨n, hn⟩ := Int.eq_ofNat_of_zero_le (show 0 ≤ -k by omega)
    rw [show k = -(n : ℤ) by omega, neg_neg, Int.toNat_natCast, zpow_neg, zpow_natCast,
      inv_mul_eq_div, lt_div_iff₀ (by positivity)]
    exact_mod_cast Iff.rfl

theorem div_lt_of_log2 (hnum : 0 < num) (hden : 0 < den) :
    (num : ℚ) / den < 2 ^ ((num.log2 : Int) - den.log2 + 1) ∧
      2 ^ ((num.log2 : Int) - den.log2 - 1) ≤ (num : ℚ) / den := by
  have hpos : (0 : ℚ) < den := by exact_mod_cast hden
  have hnumlow : (2 : ℚ) ^ (num.log2 : ℤ) ≤ num := by
    exact_mod_cast Nat.log2_self_le hnum.ne'
  have hnumhigh : (num : ℚ) < 2 ^ ((num.log2 : ℤ) + 1) := by
    exact_mod_cast Nat.lt_log2_self (n := num)
  have hdenlow : (2 : ℚ) ^ (den.log2 : ℤ) ≤ den := by
    exact_mod_cast Nat.log2_self_le hden.ne'
  have hdenhigh : (den : ℚ) < 2 ^ ((den.log2 : ℤ) + 1) := by
    exact_mod_cast Nat.lt_log2_self (n := den)
  rw [div_lt_iff₀ hpos, le_div_iff₀ hpos]
  constructor
  · calc (num : ℚ) < 2 ^ ((num.log2 : ℤ) + 1) := hnumhigh
      _ = 2 ^ ((num.log2 : ℤ) - den.log2 + 1) * 2 ^ (den.log2 : ℤ) := by
        rw [← zpow_add₀ two_ne_zero]
        congr 1
        ring
      _ ≤ 2 ^ ((num.log2 : ℤ) - den.log2 + 1) * den := by gcongr
  · calc (2 : ℚ) ^ ((num.log2 : ℤ) - den.log2 - 1) * den
        ≤ 2 ^ ((num.log2 : ℤ) - den.log2 - 1) * 2 ^ ((den.log2 : ℤ) + 1) := by gcongr
      _ = 2 ^ (num.log2 : ℤ) := by
        rw [← zpow_add₀ two_ne_zero]
        congr 1
        ring
      _ ≤ num := hnumlow

/-- In its unit a ratio has at most 53 binary digits, and just as many unless the unit is the
least one. -/
theorem unitExponent_spec (hnum : 0 < num) (hden : 0 < den) {e : Int}
    (he : unitExponent num den = e) :
    -1074 ≤ e ∧ (num : ℚ) / den < 2 ^ (e + 53) ∧
      (e = -1074 ∨ 2 ^ (e + 52) ≤ (num : ℚ) / den) := by
  obtain ⟨hhigh, hlow⟩ := div_lt_of_log2 hnum hden
  generalize hk : (num.log2 : Int) - den.log2 = k at hhigh hlow
  have hmono {i j : Int} (h : i ≤ j) : (2 : ℚ) ^ i ≤ 2 ^ j := zpow_le_zpow_right₀ one_le_two h
  have hmax : e = max (-1074) (if (num : ℚ) / den < 2 ^ k then k - 53 else k - 52) := by
    rw [← he, ← if_congr (div_lt_zpow_iff hden k) rfl rfl, ← hk]
    rfl
  rw [hmax]
  split
  · rename_i hsmall
    refine ⟨le_max_left _ _, hsmall.trans_le (hmono (by omega)), ?_⟩
    rcases le_total (-1074) (k - 53) with h | h
    · rw [max_eq_right h]
      exact .inr (le_of_eq_of_le (by congr 1; omega) hlow)
    · exact .inl (max_eq_left h)
  · rename_i hlarge
    refine ⟨le_max_left _ _, hhigh.trans_le (hmono (by omega)), ?_⟩
    rcases le_total (-1074) (k - 52) with h | h
    · rw [max_eq_right h]
      exact .inr (le_of_eq_of_le (by congr 1; omega) (not_lt.mp hlarge))
    · exact .inl (max_eq_left h)

/-- The whole number of units of `2 ^ e` that is nearest to a ratio. -/
def units (num den : Nat) (e : Int) : Nat :=
  if 0 ≤ e then roundDiv num (den * Nat.pow 2 e.toNat)
  else roundDiv (num * Nat.pow 2 (-e).toNat) den

theorem abs_units_sub_le (num : Nat) (hden : 0 < den) (e : Int) :
    |(units num den e : ℚ) - num / den / 2 ^ e| ≤ 1 / 2 := by
  unfold units
  split
  · rename_i h
    obtain ⟨n, rfl⟩ := Int.eq_ofNat_of_zero_le h
    have hscaled := abs_roundDiv_sub_le num (Nat.mul_pos hden (Nat.two_pow_pos n))
    rw [Int.toNat_natCast, zpow_natCast, div_div]
    exact_mod_cast hscaled
  · rename_i h
    obtain ⟨n, hn⟩ := Int.eq_ofNat_of_zero_le (show 0 ≤ -e by omega)
    have hscaled := abs_roundDiv_sub_le (num * 2 ^ n) hden
    rw [show e = -(n : ℤ) by omega, neg_neg, Int.toNat_natCast, zpow_neg, zpow_natCast,
      div_inv_eq_mul, div_mul_eq_mul_div]
    exact_mod_cast hscaled

/-- A whole number of units is not rounded. -/
theorem units_eq (hden : 0 < den) {e : Int} {k : Nat} (h : (num : ℚ) / den / 2 ^ e = k) :
    units num den e = k := by
  obtain ⟨hlow, hhigh⟩ := abs_le.mp (h ▸ abs_units_sub_le num hden e)
  have hle : (units num den e : ℚ) < k + 1 := by linarith
  have hge : (k : ℚ) < units num den e + 1 := by linarith
  exact le_antisymm (Nat.lt_succ_iff.mp (by exact_mod_cast hle))
    (Nat.lt_succ_iff.mp (by exact_mod_cast hge))

/-- A ratio has at most `2 ^ 53` of its units, and at least `2 ^ 52` unless the unit is the least
one. -/
theorem units_bounds (hnum : 0 < num) (hden : 0 < den) {e : Int}
    (he : unitExponent num den = e) :
    units num den e ≤ 2 ^ 53 ∧ (e = -1074 ∨ 2 ^ 52 ≤ units num den e) := by
  obtain ⟨-, hlt, hge⟩ := unitExponent_spec hnum hden he
  obtain ⟨hbelow, habove⟩ := abs_le.mp (abs_units_sub_le num hden e)
  have hunit : (0 : ℚ) < 2 ^ e := by positivity
  constructor
  · have hscaled : (num : ℚ) / den / 2 ^ e < 2 ^ 53 := by
      rw [div_lt_iff₀ hunit, mul_comm, ← zpow_natCast, ← zpow_add₀ two_ne_zero]
      exact hlt
    have hcast : (units num den e : ℚ) < 2 ^ 53 + 1 := by linarith
    exact Nat.lt_succ_iff.mp (by exact_mod_cast hcast)
  · refine hge.imp_right fun hle => ?_
    have hscaled : (2 : ℚ) ^ 52 ≤ num / den / 2 ^ e := by
      rw [le_div_iff₀ hunit, mul_comm, ← zpow_natCast, ← zpow_add₀ two_ne_zero]
      exact hle
    have hcast : (2 : ℚ) ^ 52 < units num den e + 1 := by linarith
    exact Nat.lt_succ_iff.mp (by exact_mod_cast hcast)

/-! ## The value of a pattern -/

theorem value_of_pattern {x : Binary64} {m q : Nat} (hx : x.pattern = m * 2 ^ 52 + q)
    (hq : q ≤ 2 ^ 53) (hm : m = 0 ∨ 2 ^ 52 ≤ q) : x.value = q * 2 ^ ((m : Int) - 1074) := by
  simp only [value, significand, exponent, hx, Nat.pow_eq]
  by_cases hsmall : q < 2 ^ 52
  · obtain rfl : m = 0 := hm.resolve_right (by omega)
    rw [if_pos (by omega), show (0 * 2 ^ 52 + q) / 2 ^ 52 = 0 by omega, Nat.zero_mul, Nat.zero_add]
    rfl
  · rw [if_neg (by omega)]
    by_cases hfull : q = 2 ^ 53
    · rw [show (m * 2 ^ 52 + q) % 2 ^ 52 + 2 ^ 52 = 2 ^ 52 by omega,
        show max 1 ((m * 2 ^ 52 + q) / 2 ^ 52 : Nat) - 1075 = ((m : Int) - 1074) + 1 by omega,
        zpow_add_one₀ two_ne_zero, hfull]
      push_cast
      ring
    · rw [show (m * 2 ^ 52 + q) % 2 ^ 52 + 2 ^ 52 = q by omega,
        show max 1 ((m * 2 ^ 52 + q) / 2 ^ 52 : Nat) - 1075 = (m : Int) - 1074 by omega]

theorem nearestPattern_eq (hnum : num ≠ 0) {e : Int} (he : unitExponent num den = e) :
    nearestPattern num den =
      min infinityPattern ((e + 1074).toNat * Nat.pow 2 52 + units num den e) := by
  rw [nearestPattern, if_neg hnum, ← he]
  rfl

/-- Of a positive ratio that is not too large, rounding keeps the nearest whole number of units. -/
theorem value_nearest (hnum : 0 < num) (hden : 0 < den) {e : Int}
    (he : unitExponent num den = e) (hhigh : e ≤ 900) :
    (nearest false num den).value = units num den e * 2 ^ e := by
  obtain ⟨hleast, -, -⟩ := unitExponent_spec hnum hden he
  obtain ⟨hq, hm⟩ := units_bounds hnum hden he
  obtain ⟨m, hunit⟩ := Int.eq_ofNat_of_zero_le (show 0 ≤ e + 1074 by omega)
  have hnearest : nearestPattern num den = m * 2 ^ 52 + units num den e := by
    rw [nearestPattern_eq hnum.ne' he, hunit, Int.toNat_natCast, infinityPattern, Nat.pow_eq]
    omega
  have hpattern : (nearest false num den).pattern = m * 2 ^ 52 + units num den e := by
    rw [pattern, nearest, hnearest, if_neg Bool.false_ne_true, Nat.add_zero, Nat.pow_eq]
    simp only [UInt64.toNat_ofNat']
    omega
  rw [value_of_pattern hpattern hq (hm.imp_left fun h => by omega),
    show (m : Int) - 1074 = e by omega]

theorem value_nearest_zero (den : Nat) : (nearest false 0 den).value = 0 := by
  have hzero : nearest false 0 den = ⟨0⟩ := rfl
  rw [hzero]
  simp [value, significand, pattern]

theorem isNegative_nearest (num den : Nat) : (nearest false num den).isNegative = false := by
  have hpattern : nearestPattern num den ≤ infinityPattern := by
    unfold nearestPattern
    split
    · exact Nat.zero_le _
    · exact Nat.min_le_left _ _
  rw [infinityPattern, Nat.pow_eq] at hpattern
  rw [isNegative, nearest, if_neg Bool.false_ne_true, Nat.add_zero, UInt64.toNat_ofNat',
    decide_eq_false_iff_not, Nat.pow_eq]
  omega

/-- A pattern whose magnitude is not too large is finite. -/
theorem pattern_lt_infinityPattern {x : Binary64} (h : x.value < 2 ^ 200) :
    x.pattern < infinityPattern := by
  by_contra hge
  rw [infinityPattern, Nat.pow_eq] at hge
  have hexponent : (200 : Int) ≤ x.exponent := by
    rw [exponent, Nat.pow_eq]
    omega
  have hsignificand : 1 ≤ x.significand := by
    rw [significand, Nat.pow_eq, if_neg (by omega)]
    omega
  refine absurd h (not_lt.mpr ?_)
  calc (2 : ℚ) ^ 200 = 2 ^ (200 : ℤ) := (zpow_natCast 2 200).symm
    _ ≤ 2 ^ x.exponent := zpow_le_zpow_right₀ one_le_two hexponent
    _ ≤ x.value := le_mul_of_one_le_left (by positivity) (by exact_mod_cast hsignificand)

theorem number?_nearest (h : (nearest false num den).value < 2 ^ 200) :
    (nearest false num den).number? = some (nearest false num den).value := by
  rw [number?, if_pos (pattern_lt_infinityPattern h), isNegative_nearest,
    if_neg Bool.false_ne_true]

/-! ## Errors -/

/-- A number is off by no more than some part of what it stands for. -/
def Near (error y r : ℚ) : Prop := |y - r| ≤ r * error

namespace Near

variable {ε δ x y r s : ℚ}

theorem trans (h : Near ε x y) (h' : Near δ y r) (hε : 0 ≤ ε) :
    Near (ε + δ + ε * δ) x r := by
  obtain ⟨hlow, hhigh⟩ := abs_le.mp h
  obtain ⟨hlow', hhigh'⟩ := abs_le.mp h'
  have hscaled := mul_le_mul_of_nonneg_right hhigh' hε
  refine abs_le.mpr ⟨?_, ?_⟩ <;> linarith

theorem add (h : Near ε x r) (h' : Near ε y s) : Near ε (x + y) (r + s) := by
  obtain ⟨hlow, hhigh⟩ := abs_le.mp h
  obtain ⟨hlow', hhigh'⟩ := abs_le.mp h'
  refine abs_le.mpr ⟨?_, ?_⟩ <;> linarith

theorem mul_right (h : Near ε x r) {k : ℚ} (hk : 0 ≤ k) : Near ε (x * k) (r * k) := by
  rw [Near, ← sub_mul, abs_mul, abs_of_nonneg hk, mul_right_comm]
  exact mul_le_mul_of_nonneg_right h hk

theorem mono (h : Near ε x r) (hr : 0 ≤ r) (hle : ε ≤ δ) : Near δ x r :=
  le_trans (show |x - r| ≤ r * ε from h) (mul_le_mul_of_nonneg_left hle hr)

end Near

/-- A number is zero, or neither too small nor too large for the format. -/
def Ordinary (n : Nat) (r : ℚ) : Prop := r = 0 ∨ 1 ≤ r * 2 ^ n ∧ r ≤ 2 ^ n

namespace Ordinary

theorem natCast_div {a b n : Nat} (hb : 0 < b) (ha : a ≤ 2 ^ n) (hb' : b ≤ 2 ^ n) :
    Ordinary n ((a : ℚ) / b) := by
  rcases Nat.eq_zero_or_pos a with rfl | hpos
  · exact .inl (by rw [Nat.cast_zero, zero_div])
  have hbq : (0 : ℚ) < b := by exact_mod_cast hb
  have haq : (a : ℚ) ≤ 2 ^ n := by exact_mod_cast ha
  have hscaled : (b : ℚ) ≤ a * 2 ^ n := by exact_mod_cast hb'.trans (Nat.le_mul_of_pos_left _ hpos)
  refine .inr ⟨?_, ?_⟩
  · rwa [div_mul_eq_mul_div, le_div_iff₀ hbq, one_mul]
  · exact (div_le_self (Nat.cast_nonneg a) (by exact_mod_cast hb)).trans haq

theorem mul_natCast {n m k : Nat} {r : ℚ} (h : Ordinary n r) (hk : 0 < k) (hk' : k ≤ 2 ^ m) :
    Ordinary (n + m) (r * k) := by
  rcases h with rfl | ⟨hlow, hhigh⟩
  · exact .inl (zero_mul _)
  have hkq : (1 : ℚ) ≤ k := by exact_mod_cast hk
  have hkq' : (k : ℚ) ≤ 2 ^ m := by exact_mod_cast hk'
  refine .inr ⟨?_, ?_⟩
  · calc (1 : ℚ) ≤ r * 2 ^ n * (k * 2 ^ m) :=
          one_le_mul_of_one_le_of_one_le hlow
            (one_le_mul_of_one_le_of_one_le hkq (one_le_pow₀ one_le_two))
      _ = r * k * 2 ^ (n + m) := by ring
  · calc r * k ≤ 2 ^ n * 2 ^ m := mul_le_mul hhigh hkq' (by positivity) (by positivity)
      _ = 2 ^ (n + m) := (pow_add 2 n m).symm

end Ordinary

/-- The error that rounding makes. -/
def unitError : ℚ := 1 / 2 ^ 53

theorem Ordinary.of_near {n : Nat} {y r : ℚ} (h : Ordinary n r) (hy : Near unitError y r) :
    Ordinary (n + 1) y := by
  obtain ⟨hbelow, habove⟩ := abs_le.mp hy
  rw [unitError] at hbelow habove
  rcases h with rfl | ⟨hlow, hhigh⟩
  · exact .inl (by linarith)
  · have hpow : (0 : ℚ) < 2 ^ n := by positivity
    have hr : 0 < r := pos_of_mul_pos_left (one_pos.trans_le hlow) hpow.le
    refine .inr ⟨?_, ?_⟩
    · have hhalf : r ≤ 2 * y := by linarith
      calc (1 : ℚ) ≤ r * 2 ^ n := hlow
        _ ≤ 2 * y * 2 ^ n := mul_le_mul_of_nonneg_right hhalf hpow.le
        _ = y * 2 ^ (n + 1) := by ring
    · calc y ≤ 2 * r := by linarith
        _ ≤ 2 * 2 ^ n := by linarith
        _ = 2 ^ (n + 1) := by ring

/-- Rounding an ordinary ratio loses no more than one part in `2 ^ 53`. -/
theorem near_nearest (hden : 0 < den) {r : ℚ} (hr : (num : ℚ) / den = r) {n : Nat} (hn : n ≤ 900)
    (h : Ordinary n r) : Near unitError (nearest false num den).value r := by
  subst hr
  rcases Nat.eq_zero_or_pos num with rfl | hnum
  · rw [value_nearest_zero]
    simp [Near]
  have hpos : (0 : ℚ) < num / den := by positivity
  obtain ⟨hlow, hhigh⟩ := h.resolve_left hpos.ne'
  generalize he : unitExponent num den = e
  obtain ⟨-, -, hge⟩ := unitExponent_spec hnum hden he
  have hunit : (0 : ℚ) < 2 ^ e := by positivity
  have hfull : (2 : ℚ) ^ (e + 52) ≤ num / den := by
    rcases hge with rfl | hle
    · have hleast : (2 : ℚ) ^ (-n : ℤ) ≤ num / den := by
        rw [zpow_neg, zpow_natCast, inv_le_iff_one_le_mul₀ (by positivity)]
        exact hlow
      exact (zpow_le_zpow_right₀ one_le_two (by omega)).trans hleast
    · exact hle
  have hn' : e + 52 ≤ n := by
    refine (zpow_le_zpow_iff_right₀ (one_lt_two : (1 : ℚ) < 2)).mp (hfull.trans ?_)
    rwa [zpow_natCast]
  rw [value_nearest hnum hden he (by omega)]
  have hsplit : (units num den e : ℚ) * 2 ^ e - num / den =
      (units num den e - num / den / 2 ^ e) * 2 ^ e := by
    field_simp
  rw [Near, hsplit, abs_mul, abs_of_pos hunit, unitError]
  calc |(units num den e : ℚ) - num / den / 2 ^ e| * 2 ^ e
      ≤ 1 / 2 * 2 ^ e := mul_le_mul_of_nonneg_right (abs_units_sub_le num hden e) hunit.le
    _ = 2 ^ (e + 52) * (1 / 2 ^ 53) := by
      rw [zpow_add₀ two_ne_zero]
      norm_num
      ring
    _ ≤ num / den * (1 / 2 ^ 53) := mul_le_mul_of_nonneg_right hfull (by positivity)

/-! ## Exact numbers and arithmetic -/

/-- A whole number of at most 53 binary digits is not rounded. -/
theorem value_ofNat {n : Nat} (h : n < 2 ^ 53) : (ofNat n).value = n := by
  rcases Nat.eq_zero_or_pos n with rfl | hn
  · exact (value_nearest_zero 1).trans Nat.cast_zero.symm
  generalize he : unitExponent n 1 = e
  obtain ⟨-, -, hge⟩ := unitExponent_spec hn one_pos he
  rw [Nat.cast_one, div_one] at hge
  have he0 : e ≤ 0 := by
    rcases hge with rfl | hle
    · omega
    · have hlt : (2 : ℚ) ^ (e + 52) < 2 ^ (53 : ℤ) := hle.trans_lt (by exact_mod_cast h)
      have := (zpow_lt_zpow_iff_right₀ (one_lt_two : (1 : ℚ) < 2)).mp hlt
      omega
  obtain ⟨k, hk⟩ := Int.eq_ofNat_of_zero_le (show 0 ≤ -e by omega)
  obtain rfl : e = -(k : ℤ) := by omega
  have hwhole : (n : ℚ) / (1 : Nat) / 2 ^ (-(k : ℤ)) = (n * 2 ^ k : Nat) := by
    rw [Nat.cast_one, div_one, zpow_neg, zpow_natCast, div_inv_eq_mul]
    push_cast
    rfl
  rw [ofNat, value_nearest hn one_pos he (by omega), units_eq one_pos hwhole, ← hwhole,
    Nat.cast_one, div_one]
  field_simp

theorem number?_ofNat {n : Nat} (h : n < 2 ^ 53) : (ofNat n).number? = some (n : ℚ) := by
  have hvalue : (nearest false n 1).value = n := value_ofNat h
  have hsmall : (n : ℚ) < 2 ^ 200 :=
    lt_of_lt_of_le (by exact_mod_cast h) (pow_le_pow_right₀ one_le_two (by decide : 53 ≤ 200))
  rw [ofNat, number?_nearest (hvalue ▸ hsmall), hvalue]

/-- Others lose no more than any ratio. -/
theorem near_ofNat {m n : Nat} (hn : n ≤ 900) (h : m ≤ 2 ^ n) :
    Near unitError (ofNat m).value m := by
  have hwhole : (m : ℚ) / (1 : Nat) = m := by rw [Nat.cast_one, div_one]
  exact near_nearest one_pos hwhole hn (hwhole ▸ .natCast_div one_pos h Nat.one_le_two_pow)

variable (x y : Binary64) {n : Nat}

theorem ratio_pos : 0 < x.ratio.2 := by
  unfold ratio
  split
  · exact one_pos
  · exact Nat.two_pow_pos _

theorem ratio_eq_value : (x.ratio.1 : ℚ) / x.ratio.2 = x.value := by
  unfold ratio value
  split
  · rename_i h
    obtain ⟨n, hn⟩ := Int.eq_ofNat_of_zero_le h
    rw [hn, Int.toNat_natCast, zpow_natCast, Nat.pow_eq]
    push_cast
    ring
  · rename_i h
    obtain ⟨n, hn⟩ := Int.eq_ofNat_of_zero_le (show 0 ≤ -x.exponent by omega)
    rw [show x.exponent = -(n : ℤ) by omega, neg_neg, Int.toNat_natCast, zpow_neg, zpow_natCast,
      Nat.pow_eq]
    push_cast
    rfl

theorem near_add (hn : n ≤ 900) (h : Ordinary n (x.value + y.value)) :
    Near unitError (x.add y).value (x.value + y.value) := by
  have hratio : ((x.ratio.1 * y.ratio.2 + y.ratio.1 * x.ratio.2 : Nat) : ℚ) /
      (x.ratio.2 * y.ratio.2 : Nat) = x.value + y.value := by
    have hx : (x.ratio.2 : ℚ) ≠ 0 := by exact_mod_cast x.ratio_pos.ne'
    have hy : (y.ratio.2 : ℚ) ≠ 0 := by exact_mod_cast y.ratio_pos.ne'
    rw [← ratio_eq_value, ← ratio_eq_value, div_add_div _ _ hx hy]
    push_cast
    ring
  exact near_nearest (Nat.mul_pos x.ratio_pos y.ratio_pos) hratio hn h

theorem near_mul (hn : n ≤ 900) (h : Ordinary n (x.value * y.value)) :
    Near unitError (x.mul y).value (x.value * y.value) := by
  have hratio : ((x.ratio.1 * y.ratio.1 : Nat) : ℚ) / (x.ratio.2 * y.ratio.2 : Nat) =
      x.value * y.value := by
    rw [← ratio_eq_value, ← ratio_eq_value, div_mul_div_comm]
    push_cast
    rfl
  exact near_nearest (Nat.mul_pos x.ratio_pos y.ratio_pos) hratio hn h

theorem near_div (hy : y.value ≠ 0) (hn : n ≤ 900) (h : Ordinary n (x.value / y.value)) :
    Near unitError (x.div y).value (x.value / y.value) := by
  have hratio : ((x.ratio.1 * y.ratio.2 : Nat) : ℚ) / (x.ratio.2 * y.ratio.1 : Nat) =
      x.value / y.value := by
    rw [← ratio_eq_value, ← ratio_eq_value, div_div_div_eq]
    push_cast
    rfl
  have hpos : 0 < y.ratio.1 := by
    refine Nat.pos_of_ne_zero fun hzero => hy ?_
    rw [← ratio_eq_value, hzero, Nat.cast_zero, zero_div]
  exact near_nearest (Nat.mul_pos x.ratio_pos hpos) hratio hn h

end Lifeline.Binary64
