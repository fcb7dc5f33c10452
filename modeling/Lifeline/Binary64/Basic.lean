/-! Doubles as 64-bit patterns, with exact rounding. A magnitude is rounded to the nearest double,
a tie to the even one; the arithmetic here is exact arithmetic on ratios followed by one
rounding. -/
namespace Lifeline

structure Binary64 where
  bits : UInt64
deriving DecidableEq, Repr

namespace Binary64

/-- The pattern of positive infinity; smaller patterns are the finite non-negative doubles. -/
def infinityPattern : Nat := 2047 * Nat.pow 2 52

/-- The quotient rounded to the nearest integer, a half to the even neighbour. -/
def roundDiv (num den : Nat) : Nat :=
  let q := num / den
  let r := num % den
  if 2 * r < den then q else if den < 2 * r then q + 1 else q + q % 2

/-- The exponent of the unit in which `num / den` has 53 binary digits, or the least exponent. -/
def unitExponent (num den : Nat) : Int :=
  let k : Int := (num.log2 : Int) - (den.log2 : Int)
  let small := if 0 ≤ k then num < den * Nat.pow 2 k.toNat else num * Nat.pow 2 (-k).toNat < den
  max (-1074) (if small then k - 53 else k - 52)

/-- The pattern of the double nearest to `num / den`; too large a ratio gives infinity. -/
def nearestPattern (num den : Nat) : Nat :=
  if num = 0 then 0
  else
    let e := unitExponent num den
    let q :=
      if 0 ≤ e then roundDiv num (den * Nat.pow 2 e.toNat)
      else roundDiv (num * Nat.pow 2 (-e).toNat) den
    min infinityPattern ((e + 1074).toNat * Nat.pow 2 52 + q)

/-- The double nearest to `num / den`, with a sign. -/
def nearest (negative : Bool) (num den : Nat) : Binary64 :=
  ⟨UInt64.ofNat (nearestPattern num den + if negative then Nat.pow 2 63 else 0)⟩

def ofNat (n : Nat) : Binary64 := nearest false n 1

def pattern (x : Binary64) : Nat := x.bits.toNat % Nat.pow 2 63

def isNegative (x : Binary64) : Bool := Nat.pow 2 63 ≤ x.bits.toNat

def isInfinite (x : Binary64) : Bool := x.pattern == infinityPattern

def isNaN (x : Binary64) : Bool := infinityPattern < x.pattern

def isZero (x : Binary64) : Bool := x.pattern == 0

def neg (x : Binary64) : Binary64 := ⟨x.bits ^^^ 0x8000000000000000⟩

def infinity : Binary64 := ⟨0x7ff0000000000000⟩

def nan : Binary64 := ⟨0x7ff8000000000000⟩

/-- A finite magnitude is `significand * 2 ^ exponent`. -/
def significand (x : Binary64) : Nat :=
  if x.pattern < Nat.pow 2 52 then x.pattern else x.pattern % Nat.pow 2 52 + Nat.pow 2 52

def exponent (x : Binary64) : Int := max 1 (x.pattern / Nat.pow 2 52 : Nat) - 1075

def ratio (x : Binary64) : Nat × Nat :=
  if 0 ≤ x.exponent then (x.significand * Nat.pow 2 x.exponent.toNat, 1)
  else (x.significand, Nat.pow 2 (-x.exponent).toNat)

def add (x y : Binary64) : Binary64 :=
  nearest false (x.ratio.1 * y.ratio.2 + y.ratio.1 * x.ratio.2) (x.ratio.2 * y.ratio.2)

def mul (x y : Binary64) : Binary64 :=
  nearest false (x.ratio.1 * y.ratio.1) (x.ratio.2 * y.ratio.2)

/-- The rounded quotient of a finite magnitude by a positive one. -/
def div (x y : Binary64) : Binary64 :=
  nearest false (x.ratio.1 * y.ratio.2) (x.ratio.2 * y.ratio.1)

/-- Sixteen lower-case hexadecimal digits of the pattern. -/
def hex (x : Binary64) : String :=
  String.ofList ((List.range 16).map fun i =>
    ((Nat.toDigits 16 (x.bits.toNat / Nat.pow 16 (15 - i) % 16)).headD '0'))

example : (ofNat 1000).bits = 0x408f400000000000 := by decide +kernel
example : (ofNat (Nat.pow 2 53 + 1)).bits = (ofNat (Nat.pow 2 53)).bits := by decide +kernel
example : (nearest false 1 10).bits = 0x3fb999999999999a := by decide +kernel
example : (nearest true 1 (Nat.pow 2 1074)).bits = 0x8000000000000001 := by decide +kernel

end Binary64

end Lifeline
