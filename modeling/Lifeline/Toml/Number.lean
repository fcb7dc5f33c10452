import Lifeline.Toml.Value
import Lifeline.Toml.Text
/-! Numbers, dates and times in a TOML document. -/
namespace Lifeline.Toml

open Text (Reader)

/-- Digits after the first; a single underscore may stand between two. -/
def moreDigits (isDigit : Char → Bool) : List Char → List Char × List Char
  | [] => ([], [])
  | '_' :: c :: r =>
    if isDigit c then
      let (ds, r) := moreDigits isDigit r
      (c :: ds, r)
    else ([], '_' :: c :: r)
  | c :: r =>
    if isDigit c then
      let (ds, r) := moreDigits isDigit r
      (c :: ds, r)
    else ([], c :: r)

def digits (isDigit : Char → Bool) : Reader (List Char)
  | [] => none
  | c :: r =>
    if isDigit c then
      let (ds, r) := moreDigits isDigit r
      some (c :: ds, r)
    else none

/-- Digits of a decimal integer: a leading zero stands alone. -/
def wholeDigits : Reader (List Char)
  | '0' :: r => some (['0'], r)
  | cs => digits Char.isDigit cs

def sign : List Char → Bool × List Char
  | '-' :: r => (true, r)
  | '+' :: r => (false, r)
  | cs => (false, cs)

/-- The nearest double to `n * 10 ^ e`; the guards keep the powers small where the outcome is
infinity or zero anyway. -/
def decimalFloat (negative : Bool) (n : Nat) (e : Int) : Binary64 :=
  let size : Int := (Nat.toDigits 10 n).length
  if n = 0 ∨ e + size < -400 then .nearest negative 0 1
  else if 400 < e + size then if negative then Binary64.infinity.neg else .infinity
  else if 0 ≤ e then .nearest negative (n * Nat.pow 10 e.toNat) 1
  else .nearest negative n (Nat.pow 10 (-e).toNat)

def exponentPart : Reader Int
  | c :: r =>
    if c = 'e' ∨ c = 'E' then
      let (negative, r) := sign r
      (digits Char.isDigit r).map fun (ds, r) =>
        let n : Int := Text.numeral 10 ds
        (if negative then -n else n, r)
    else none
  | [] => none

/-- A decimal integer with a fraction, an exponent or both. A positive number beyond the largest
double is refused, a negative one reads as negative infinity. -/
def readFloat (cs : List Char) : Option (Binary64 × List Char) := do
  let (negative, r) := sign cs
  let (whole, r) ← wholeDigits r
  let (fraction, exponent, r) ← match r with
    | '.' :: r =>
      (digits Char.isDigit r).map fun (ds, r) =>
        match exponentPart r with
        | some (e, r) => (ds, e, r)
        | none => (ds, (0 : Int), r)
    | r => (exponentPart r).map fun (e, r) => ([], e, r)
  let x := decimalFloat negative (Text.numeral 10 (whole ++ fraction)) (exponent - fraction.length)
  if x = .infinity then none else some (x, r)

def readSpecialFloat (cs : List Char) : Option (Binary64 × List Char) :=
  let (negative, r) := sign cs
  let signed (x : Binary64) := if negative then x.neg else x
  match r with
  | 'i' :: 'n' :: 'f' :: r => some (signed .infinity, r)
  | 'n' :: 'a' :: 'n' :: r => some (signed .nan, r)
  | _ => none

def isBinaryDigit (c : Char) : Bool := c == '0' || c == '1'

def isOctalDigit (c : Char) : Bool := '0' ≤ c && c ≤ '7'

/-- Integers are 64-bit signed; only decimal ones carry a sign. -/
def readInteger (cs : List Char) : Option (Int × List Char) :=
  let bounded (n : Int) (r : List Char) :=
    if -9223372036854775808 ≤ n ∧ n < 9223372036854775808 then some (n, r) else none
  let inBase (base : Nat) (isDigit : Char → Bool) (r : List Char) :=
    (digits isDigit r).bind fun (ds, r) => bounded (Text.numeral base ds) r
  match cs with
  | '0' :: 'x' :: r => inBase 16 Text.isHexDigit r
  | '0' :: 'o' :: r => inBase 8 isOctalDigit r
  | '0' :: 'b' :: r => inBase 2 isBinaryDigit r
  | cs =>
    let (negative, r) := sign cs
    (wholeDigits r).bind fun (ds, r) =>
      let n : Int := Text.numeral 10 ds
      bounded (if negative then -n else n) r

def twoDigits (low high : Nat) : Reader Nat
  | a :: b :: r =>
    let n := Text.numeral 10 [a, b]
    if a.isDigit ∧ b.isDigit ∧ low ≤ n ∧ n ≤ high then some (n, r) else none
  | _ => none

def isLeapYear (year : Nat) : Bool := year % 4 == 0 && (year % 100 != 0 || year % 400 == 0)

def daysIn (year month : Nat) : Nat :=
  if month = 2 then if isLeapYear year then 29 else 28
  else if month = 4 ∨ month = 6 ∨ month = 9 ∨ month = 11 then 30
  else 31

def expect (c : Char) : List Char → Option (List Char)
  | d :: r => if d = c then some r else none
  | [] => none

def readDate (cs : List Char) : Option (Date × List Char) := do
  let (century, r) ← twoDigits 0 99 cs
  let (yearOfCentury, r) ← twoDigits 0 99 r
  let year := century * 100 + yearOfCentury
  let r ← expect '-' r
  let (month, r) ← twoDigits 1 12 r
  let r ← expect '-' r
  let (day, r) ← twoDigits 1 (daysIn year month) r
  return (⟨year, month, day⟩, r)

/-- Fractions of a second beyond the ninth digit are cut off. -/
def fractionNanos (ds : List Char) : Nat :=
  Text.numeral 10 (ds.take 9) * Nat.pow 10 (9 - (ds.take 9).length)

def readTime (cs : List Char) : Option (Time × List Char) := do
  let (hour, r) ← twoDigits 0 23 cs
  let r ← expect ':' r
  let (minute, r) ← twoDigits 0 59 r
  let r ← expect ':' r
  let (second, r) ← twoDigits 0 60 r
  match r with
  | '.' :: r =>
    let ds := r.takeWhile Char.isDigit
    if ds.isEmpty then none
    else return (⟨hour, minute, second, fractionNanos ds⟩, r.dropWhile Char.isDigit)
  | r => return (⟨hour, minute, second, 0⟩, r)

def readOffset : Reader Int
  | 'Z' :: r => some (0, r)
  | 'z' :: r => some (0, r)
  | c :: r =>
    if c = '+' ∨ c = '-' then do
      let (hours, r) ← twoDigits 0 23 r
      let r ← expect ':' r
      let (minutes, r) ← twoDigits 0 59 r
      let n : Int := hours * 60 + minutes
      return (if c = '-' then -n else n, r)
    else none
  | [] => none

/-- A date, a date and a time after a letter or a blank, or a time alone. -/
def readDateTime (cs : List Char) : Option (DateTime × List Char) :=
  match readDate cs with
  | some (date, r) =>
    let withTime := match r with
      | c :: r => if c = 'T' ∨ c = 't' ∨ c = ' ' then readTime r else none
      | [] => none
    match withTime with
    | some (time, r) =>
      match readOffset r with
      | some (offset, r) => some (⟨some date, some time, some offset⟩, r)
      | none => some (⟨some date, some time, none⟩, r)
    | none => some (⟨some date, none, none⟩, r)
  | none => (readTime cs).map fun (time, r) => (⟨none, some time, none⟩, r)

def readNumber (cs : List Char) : Option (Value × List Char) :=
  match readDateTime cs with
  | some (t, r) => some (.dateTime t, r)
  | none =>
    match (readFloat cs).orElse fun _ => readSpecialFloat cs with
    | some (x, r) => some (.float x, r)
    | none => (readInteger cs).map fun (n, r) => (.integer n, r)

end Lifeline.Toml
