import Mathlib.Logic.Basic
import Lifeline.Json.Printer
import Lifeline.Json.Reader
/-! Integers. The digits of an integer within 64 bits are read back to it, and no other integer is
ever read. -/
namespace Lifeline.Json

/-- The integers that a numeral can stand for: signed or unsigned ones of 64 bits. -/
def IsWord (n : Int) : Prop := -9223372036854775808 ≤ n ∧ n ≤ maxUnsigned

/-- No character at the front of the text could belong to a numeral before it. -/
def Stops (rest : List Char) : Prop :=
  ∀ c ∈ rest.head?, c.isDigit = false ∧ c ≠ '.' ∧ c ≠ 'e' ∧ c ≠ 'E'

theorem stops_nil : Stops [] := by simp [Stops]

theorem stops_cons {c : Char} (h : c ∈ [',', ']', '\x7d']) (rest : List Char) :
    Stops (c :: rest) := by
  rintro _ ⟨⟩
  simp only [List.mem_cons, List.not_mem_nil, or_false] at h
  rcases h with rfl | rfl | rfl <;> decide

/-! ## Digits -/

theorem digitValue?_of_isDigit {c : Char} (h : c.isDigit) :
    Text.digitValue? c = some (c.toNat - '0'.toNat) := by
  simp only [Char.isDigit, Bool.and_eq_true, decide_eq_true_eq] at h
  exact if_pos h

theorem le_ofDigitChars (n : Nat) (ds : List Char) : n ≤ Nat.ofDigitChars 10 ds n := by
  induction ds generalizing n with
  | nil => exact Nat.le_refl n
  | cons c ds ih =>
    rw [Nat.ofDigitChars_cons]
    exact Nat.le_trans (by omega) (ih _)

/-- Digits are absorbed as long as their number fits, since no number on the way is greater. -/
theorem absorb_of_le {ds : List Char} (hds : ∀ c ∈ ds, c.isDigit) {n : Nat}
    (hfits : Nat.ofDigitChars 10 ds n ≤ maxUnsigned) :
    absorb n ds = (Nat.ofDigitChars 10 ds n, []) := by
  induction ds generalizing n with
  | nil => rfl
  | cons c ds ih =>
    rw [Nat.ofDigitChars_cons] at hfits ⊢
    have hvalue : n * 10 + (Text.digitValue? c).getD 0 = 10 * n + (c.toNat - '0'.toNat) := by
      rw [digitValue?_of_isDigit (hds c (.head _)), Option.getD_some, Nat.mul_comm]
    have hnext : 10 * n + (c.toNat - '0'.toNat) ≤ maxUnsigned :=
      Nat.le_trans (le_ofDigitChars _ ds) hfits
    simp only [absorb, hvalue, if_pos hnext]
    exact ih (fun d hd => hds d (.tail _ hd)) hfits

theorem absorb_le {n : Nat} (hn : n ≤ maxUnsigned) (ds : List Char) :
    (absorb n ds).1 ≤ maxUnsigned := by
  induction ds generalizing n with
  | nil => exact hn
  | cons c ds ih =>
    simp only [absorb]
    split
    · rename_i hnext
      exact ih hnext
    · exact hn

theorem forall_isDigit_toDigits (n : Nat) : ∀ c ∈ Nat.toDigits 10 n, c.isDigit := fun _ hc =>
  Nat.isDigit_of_mem_toDigits (by decide) (by decide) hc

theorem exists_toDigits_eq_cons (n : Nat) :
    ∃ c cs, Nat.toDigits 10 n = c :: cs ∧ c.isDigit := by
  obtain ⟨c, cs, hcs⟩ := List.exists_cons_of_ne_nil (Nat.toDigits_ne_nil (n := n) (b := 10))
  exact ⟨c, cs, hcs, forall_isDigit_toDigits n c (by simp [hcs])⟩

/-- No number but zero is written with a zero first, so the digits of an integer are never refused
for one. -/
theorem head?_toDigits {n : Nat} (h : (Nat.toDigits 10 n).head? = some '0') : n = 0 := by
  induction n using Nat.strongRecOn with
  | ind n ih =>
    by_cases hn : n < 10
    · rw [Nat.toDigits_of_lt_base hn] at h
      have hdigit : ∀ k < 10, some (Nat.digitChar k) = some '0' → k = 0 := by decide
      exact hdigit n hn h
    · have hle : 10 ≤ n := Nat.not_lt.mp hn
      obtain ⟨c, cs, hcs, -⟩ := exists_toDigits_eq_cons (n / 10)
      rw [Nat.toDigits_of_base_le (by decide) hle, hcs] at h
      have hzero := ih (n / 10) (by omega) (by rw [hcs]; exact h)
      omega

/-! ## Numerals -/

theorem digits1_append {ds rest : List Char} (hds : ∀ c ∈ ds, c.isDigit) (hne : ds ≠ [])
    (hrest : Stops rest) : digits1 (ds ++ rest) = some (ds, rest) := by
  have htake : rest.takeWhile Char.isDigit = [] := by
    cases rest with
    | nil => rfl
    | cons c rest => simp [(hrest c rfl).1]
  have hdrop : rest.dropWhile Char.isDigit = rest := by
    cases rest with
    | nil => rfl
    | cons c rest => simp [(hrest c rfl).1]
  rw [digits1, List.takeWhile_append_of_pos hds, List.dropWhile_append_of_pos hds, htake, hdrop]
  simp [hne]

theorem wholePart_toDigits (n : Nat) {rest : List Char} (hrest : Stops rest) :
    wholePart (Nat.toDigits 10 n ++ rest) = some (Nat.toDigits 10 n, rest) := by
  rw [wholePart, digits1_append (forall_isDigit_toDigits n) Nat.toDigits_ne_nil hrest, Option.bind_some]
  refine if_neg ?_
  rintro ⟨hzero, hlength⟩
  rw [head?_toDigits hzero] at hlength
  exact absurd hlength (by decide)

theorem fractionPart_of_stops {rest : List Char} (hrest : Stops rest) :
    fractionPart rest = some ([], rest) := by
  unfold fractionPart
  split
  · exact absurd rfl (hrest '.' rfl).2.1
  · rfl

theorem exponentPart_of_stops {rest : List Char} (hrest : Stops rest) :
    exponentPart rest = some (none, rest) := by
  cases rest with
  | nil => rfl
  | cons c rest =>
    obtain ⟨-, -, hlower, hupper⟩ := hrest c rfl
    unfold exponentPart
    exact if_neg (by simp [hlower, hupper])

/-- An integer is read as its sign and its digits. -/
theorem readNumeral_integerChars (n : Int) {rest : List Char} (hrest : Stops rest) :
    readNumeral (integerChars n ++ rest) =
      some (⟨decide (n < 0), Nat.toDigits 10 n.natAbs, [], none⟩, rest) := by
  have hwhole := wholePart_toDigits n.natAbs hrest
  unfold integerChars
  split
  · rename_i hn
    simp [readNumeral, hwhole, fractionPart_of_stops hrest, exponentPart_of_stops hrest, hn]
  · rename_i hn
    obtain ⟨c, cs, hcs, hc⟩ := exists_toDigits_eq_cons n.natAbs
    have hminus : c ≠ '-' := by
      rintro rfl
      cases hc
    rw [hcs, List.cons_append] at hwhole ⊢
    simp [readNumeral, hminus, hwhole, fractionPart_of_stops hrest, exponentPart_of_stops hrest, hn]

theorem value?_toDigits {n : Int} (hn : IsWord n) :
    Numeral.value? ⟨decide (n < 0), Nat.toDigits 10 n.natAbs, [], none⟩ = some (.integer n) := by
  obtain ⟨hlow, hhigh⟩ := hn
  have hfits : n.natAbs ≤ maxUnsigned := by
    have hmax : maxUnsigned = 18446744073709551615 := rfl
    omega
  have habsorb : absorb 0 (Nat.toDigits 10 n.natAbs) = (n.natAbs, []) := by
    have hnumber : Nat.ofDigitChars 10 (Nat.toDigits 10 n.natAbs) 0 = n.natAbs :=
      Nat.ofDigitChars_toDigits (by decide) (by decide)
    rw [absorb_of_le (forall_isDigit_toDigits _) (by rw [hnumber]; exact hfits), hnumber]
  have hsigned : if decide (n < 0) then 0 < n.natAbs ∧ n.natAbs ≤ 9223372036854775808 else True := by
    split
    · rename_i hsign
      have hnegative : n < 0 := of_decide_eq_true hsign
      omega
    · trivial
  have hvalue : (if decide (n < 0) then -(n.natAbs : Int) else n.natAbs) = n := by
    split
    · rename_i hsign
      have hnegative : n < 0 := of_decide_eq_true hsign
      omega
    · rename_i hsign
      have hnatural : ¬n < 0 := fun hnegative => hsign (decide_eq_true hnegative)
      omega
  simp only [Numeral.value?, habsorb]
  rw [if_pos ⟨rfl, rfl, rfl, hsigned⟩, hvalue]

/-- A numeral stands for an integer within 64 bits or for a double. -/
theorem of_value?_eq_some {m : Numeral} {v : Value} (h : m.value? = some v) :
    (∃ n, v = .integer n ∧ IsWord n) ∨ ∃ x, v = .float x := by
  have hle := absorb_le (Nat.zero_le maxUnsigned) m.whole
  have hmax : maxUnsigned = 18446744073709551615 := rfl
  simp only [Numeral.value?] at h
  rcases ite_eq_iff.mp h with ⟨⟨-, -, -, hsigned⟩, h⟩ | ⟨-, h⟩
  · refine .inl ⟨_, (Option.some.inj h).symm, ?_⟩
    split
    · rename_i hnegative
      rw [if_pos hnegative] at hsigned
      exact ⟨by omega, by omega⟩
    · exact ⟨by omega, by omega⟩
  · obtain ⟨x, -, hx⟩ := Option.map_eq_some_iff.mp h
    exact .inr ⟨_, hx.symm⟩

end Lifeline.Json
