import Lifeline.Binary64.Decimal
/-! TOML values. The entries of a table keep the order of the document. -/
namespace Lifeline.Toml

structure Date where
  year : Nat
  month : Nat
  day : Nat
deriving DecidableEq, Repr

structure Time where
  hour : Nat
  minute : Nat
  second : Nat
  nanosecond : Nat
deriving DecidableEq, Repr

/-- A date, a time of day, or both, then perhaps with an offset in minutes. -/
structure DateTime where
  date : Option Date
  time : Option Time
  offset : Option Int
deriving DecidableEq, Repr

inductive Value
  | text (s : String)
  | integer (n : Int)
  | float (x : Binary64)
  | boolean (b : Bool)
  | dateTime (t : DateTime)
  | array (items : List Value)
  | table (entries : List (String × Value))
deriving Repr

/-- Positional notation with at least one decimal; infinities and the not-a-number have names. -/
def floatText (x : Binary64) : String :=
  if x.isNaN then "NaN"
  else
    (if x.isNegative then "-" else "") ++
      if x.isInfinite then "inf"
      else if x.isZero then "0.0"
      else String.ofList x.shortest.positional

end Lifeline.Toml
