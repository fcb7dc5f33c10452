import Lifeline.Json.Value
import Lifeline.Text.Reader
/-! Number literals and their values. An integer literal within 64 bits is exact; any other number
is a double made from at most 64 bits of its digits and one power of ten. -/
namespace Lifeline.Json

structure Numeral where
  negative : Bool
  whole : List Char
  fraction : List Char
  exponent : Option Int

def maxUnsigned : Nat := UInt64.size - 1

/-- Appends digits to a number while it stays within 64 bits; returns the digits left over. -/
def absorb : Nat → List Char → Nat × List Char
  | n, [] => (n, [])
  | n, c :: rest =>
    let n' := n * 10 + (Text.digitValue? c).getD 0
    if n' ≤ maxUnsigned then absorb n' rest else (n, c :: rest)

/-- `n * 10 ^ e` with one rounding for `n` and one for the scaling; a scale below `1e-308` is
reached in two divisions. An infinite result is refused. -/
def scaled? (n : Nat) (e : Int) : Option Binary64 :=
  let f := Binary64.ofNat n
  let power (k : Nat) := Binary64.ofNat (Nat.pow 10 k)
  if n = 0 then some f
  else if 308 < e then none
  else if 0 ≤ e then
    let r := f.mul (power e.toNat)
    if r.isInfinite then none else some r
  else if -308 ≤ e then some (f.div (power (-e).toNat))
  else if -616 ≤ e then some ((f.div (power 308)).div (power (-e - 308).toNat))
  else some (Binary64.ofNat 0)

/-- A point or an exponent makes a double, as do a negative zero and too many digits. -/
def Numeral.value? (n : Numeral) : Option Value :=
  let (s, dropped) := absorb 0 n.whole
  let signed (x : Binary64) := Value.float (if n.negative then x.neg else x)
  if n.fraction.isEmpty ∧ n.exponent.isNone ∧ dropped.isEmpty ∧
      (if n.negative then 0 < s ∧ s ≤ 9223372036854775808 else true) then
    some (.integer (if n.negative then -(s : Int) else s))
  else
    let (s', late) := absorb s n.fraction
    let e : Int := dropped.length - (n.fraction.length - late.length : Nat) + n.exponent.getD 0
    (scaled? s' e).map signed

def digits1 (cs : List Char) : Option (List Char × List Char) :=
  let ds := cs.takeWhile Char.isDigit
  if ds.isEmpty then none else some (ds, cs.dropWhile Char.isDigit)

def exponentPart : Text.Reader (Option Int)
  | c :: rest =>
    if c = 'e' ∨ c = 'E' then
      let (negative, ds) := match rest with
        | '-' :: r => (true, r)
        | '+' :: r => (false, r)
        | r => (false, r)
      (digits1 ds).map fun (d, r) =>
        (some (if negative then -(Text.numeral 10 d : Int) else Text.numeral 10 d), r)
    else some (none, c :: rest)
  | [] => some (none, [])

def fractionPart : Text.Reader (List Char)
  | '.' :: rest => digits1 rest
  | cs => some ([], cs)

/-- No digit may follow a leading zero. -/
def wholePart (cs : List Char) : Option (List Char × List Char) :=
  (digits1 cs).bind fun (ds, r) =>
    if ds.head? = some '0' ∧ 1 < ds.length then none else some (ds, r)

def readNumeral (cs : List Char) : Option (Numeral × List Char) := do
  let (negative, cs) := match cs with
    | '-' :: r => (true, r)
    | r => (false, r)
  let (whole, cs) ← wholePart cs
  let (fraction, cs) ← fractionPart cs
  let (exponent, cs) ← exponentPart cs
  return (⟨negative, whole, fraction, exponent⟩, cs)

end Lifeline.Json
