import Lifeline.Binary64.Basic
/-! The shortest decimal that rounds to a given double, and the ways of writing it down. -/
namespace Lifeline.Binary64

/-- The number `digits * 10 ^ scale`. -/
structure Decimal where
  digits : Nat
  scale : Int
deriving DecidableEq, Repr

/-- `a * 2 ^ p` against `b * 10 ^ k`, as two naturals in the same ratio. -/
private def aligned (a : Nat) (p : Int) (b : Nat) (k : Int) : Nat × Nat :=
  (a * Nat.pow 2 p.toNat * Nat.pow 10 (-k).toNat, b * Nat.pow 10 k.toNat * Nat.pow 2 (-p).toNat)

/-- Whether `c * 10 ^ k` lies among the reals that round to `m * 2 ^ e`. The bounds lie half a
unit away, below a power of two a quarter, and belong to the interval when `m` is even. -/
def roundsTo (m : Nat) (e : Int) (c : Nat) (k : Int) : Bool :=
  let low := if m = Nat.pow 2 52 ∧ -1074 < e then 4 * m - 1 else 4 * m - 2
  let (l, x) := aligned low (e - 2) c k
  let (h, y) := aligned (4 * m + 2) (e - 2) c k
  if m % 2 = 0 then l ≤ x && y ≤ h else l < x && y < h

/-- Tries the two neighbours of `m * 2 ^ e` on the grid of `10 ^ k`, then finer grids. The nearer
of two hits wins, the even one if they are equally near. -/
def shortestFrom (m : Nat) (e : Int) : Nat → Int → Decimal
  | 0, k => ⟨0, k⟩
  | fuel + 1, k =>
    let (x, unit) := aligned m e 1 k
    let c := x / unit
    let below := 0 < c && roundsTo m e c k
    let above := roundsTo m e (c + 1) k
    if below && above then
      let r := 2 * (x % unit)
      ⟨if r < unit then c else if unit < r then c + 1 else c + c % 2, k⟩
    else if below then ⟨c, k⟩
    else if above then ⟨c + 1, k⟩
    else shortestFrom m e fuel (k - 1)

/-- The shortest decimal of a positive finite magnitude. The search starts on a grid coarser than
the number itself, and seventeen digits always suffice. -/
def shortest (x : Binary64) : Decimal :=
  let m := x.significand
  let e := x.exponent
  let top : Int := ((m.log2 : Int) + 1 + e) * 30103 / 100000 + 2
  shortestFrom m e 40 top

/-- Positional notation with at least one digit on either side of the point. -/
def Decimal.positional (d : Decimal) : List Char :=
  let ds := Nat.toDigits 10 d.digits
  if 0 ≤ d.scale then ds ++ List.replicate d.scale.toNat '0' ++ ['.', '0']
  else
    let places := (-d.scale).toNat
    if places < ds.length then
      ds.take (ds.length - places) ++ '.' :: ds.drop (ds.length - places)
    else '0' :: '.' :: (List.replicate (places - ds.length) '0' ++ ds)

/-- One digit before the point and an exponent that always shows its sign. -/
def Decimal.scientific (d : Decimal) : List Char :=
  let ds := Nat.toDigits 10 d.digits
  let e : Int := d.scale + ds.length - 1
  let mantissa := match ds with
    | c :: rest => if rest.isEmpty then [c] else c :: '.' :: rest
    | [] => []
  mantissa ++ 'e' :: (if 0 ≤ e then '+' else '-') :: Nat.toDigits 10 e.natAbs

/-- The exponent that scientific notation would show. -/
def Decimal.magnitude (d : Decimal) : Int := d.scale + (Nat.toDigits 10 d.digits).length - 1

example : (shortest (nearest false 1 10)).positional = ['0', '.', '1'] := by decide +kernel
example : (shortest ⟨1⟩).scientific = ['5', 'e', '-', '3', '2', '4'] := by decide +kernel

end Lifeline.Binary64
