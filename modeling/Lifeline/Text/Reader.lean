/-! Readers take one item off the front of a text and return what follows it. -/
namespace Lifeline.Text

abbrev Reader (α : Type) := List Char → Option (α × List Char)

/-- The value of a digit in a base up to sixteen, letters of either case. -/
def digitValue? (c : Char) : Option Nat :=
  if '0' ≤ c ∧ c ≤ '9' then some (c.toNat - '0'.toNat)
  else if 'a' ≤ c ∧ c ≤ 'f' then some (c.toNat - 'a'.toNat + 10)
  else if 'A' ≤ c ∧ c ≤ 'F' then some (c.toNat - 'A'.toNat + 10)
  else none

def isHexDigit (c : Char) : Bool := (digitValue? c).isSome

/-- The number written by digits in a base; other characters count as zero. -/
def numeral (base : Nat) (ds : List Char) : Nat :=
  ds.foldl (fun n c => n * base + (digitValue? c).getD 0) 0

/-- The character with this code, unless it is a surrogate or beyond the last one. -/
def scalar? (n : Nat) : Option Char := if h : n.isValidChar then some (Char.ofNatAux n h) else none

theorem scalar?_toNat (c : Char) : scalar? c.toNat = some c := by
  unfold scalar?
  rw [dif_pos (show c.toNat.isValidChar from c.valid)]
  rfl

end Lifeline.Text
