import Lifeline.Json.Value
/-! The compact text of a JSON value: no blanks, and only those characters escaped that must be. -/
namespace Lifeline.Json

def hexDigit (n : Nat) : Char := (Nat.toDigits 16 n).headD '0'

/-- Quotation mark, backslash and the characters below the space are escaped. -/
def escape (c : Char) : List Char :=
  if c = '"' then ['\\', '"']
  else if c = '\\' then ['\\', '\\']
  else if c = '\x08' then ['\\', 'b']
  else if c = '\x0c' then ['\\', 'f']
  else if c = '\n' then ['\\', 'n']
  else if c = '\r' then ['\\', 'r']
  else if c = '\t' then ['\\', 't']
  else if c.toNat < 32 then
    ['\\', 'u', '0', '0', hexDigit (c.toNat / 16), hexDigit (c.toNat % 16)]
  else [c]

def literal (s : String) : List Char := '"' :: s.toList.flatMap escape ++ ['"']

def integerChars (n : Int) : List Char :=
  if n < 0 then '-' :: Nat.toDigits 10 n.natAbs else Nat.toDigits 10 n.natAbs

/-- The shortest digits that read back, positional from `1e-5` up to `1e16`, else scientific. -/
def floatChars (x : Binary64) : List Char :=
  let sign := if x.isNegative then ['-'] else []
  if x.isZero then sign ++ ['0', '.', '0']
  else
    let d := x.shortest
    sign ++ if -5 ≤ d.magnitude ∧ d.magnitude < 16 then d.positional else d.scientific

mutual
def Value.chars : Value → List Char
  | .null => ['n', 'u', 'l', 'l']
  | .boolean true => ['t', 'r', 'u', 'e']
  | .boolean false => ['f', 'a', 'l', 's', 'e']
  | .integer n => integerChars n
  | .float x => floatChars x
  | .text s => literal s
  | .array items => '[' :: itemsChars items ++ [']']
  | .object members => '\x7b' :: membersChars members ++ ['\x7d']

def itemsChars : List Value → List Char
  | [] => []
  | v :: rest => v.chars ++ moreItemsChars rest

def moreItemsChars : List Value → List Char
  | [] => []
  | v :: rest => ',' :: v.chars ++ moreItemsChars rest

def membersChars : List (String × Value) → List Char
  | [] => []
  | (k, v) :: rest => literal k ++ ':' :: v.chars ++ moreMembersChars rest

def moreMembersChars : List (String × Value) → List Char
  | [] => []
  | (k, v) :: rest => ',' :: literal k ++ ':' :: v.chars ++ moreMembersChars rest
end

def Value.print (v : Value) : String := String.ofList v.chars

end Lifeline.Json
