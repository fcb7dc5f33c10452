import Lifeline.Json.Numeral
/-! Reading JSON text. Arrays and objects nest at most 127 deep, a surrogate escape stands only in
a pair, and a character below the space stands in no string. -/
namespace Lifeline.Json

open Text (Reader)

def isBlank (c : Char) : Bool := c == ' ' || c == '\t' || c == '\n' || c == '\r'

def skipBlank (cs : List Char) : List Char := cs.dropWhile isBlank

def simpleEscape? (c : Char) : Option Char :=
  if c = '"' ∨ c = '\\' ∨ c = '/' then some c
  else if c = 'b' then some '\x08'
  else if c = 'f' then some '\x0c'
  else if c = 'n' then some '\n'
  else if c = 'r' then some '\r'
  else if c = 't' then some '\t'
  else none

def unit? (a b c d : Char) : Option Nat := do
  let a ← Text.digitValue? a
  let b ← Text.digitValue? b
  let c ← Text.digitValue? c
  let d ← Text.digitValue? d
  return ((a * 16 + b) * 16 + c) * 16 + d

def stringBody : Reader (List Char)
  | [] => none
  | '"' :: r => some ([], r)
  | '\\' :: 'u' :: a :: b :: c :: d :: r =>
    (unit? a b c d).bind fun high =>
      match Text.scalar? high with
      | some x => (stringBody r).map fun (s, r) => (x :: s, r)
      | none =>
        match r with
        | '\\' :: 'u' :: a' :: b' :: c' :: d' :: r' =>
          (unit? a' b' c' d').bind fun low =>
            if high < 0xdc00 ∧ 0xdc00 ≤ low ∧ low < 0xe000 then
              (Text.scalar? (0x10000 + (high - 0xd800) * 0x400 + (low - 0xdc00))).bind fun x =>
                (stringBody r').map fun (s, r) => (x :: s, r)
            else none
        | _ => none
  | '\\' :: c :: r =>
    (simpleEscape? c).bind fun x => (stringBody r).map fun (s, r) => (x :: s, r)
  | c :: r => if c.toNat < 32 then none else (stringBody r).map fun (s, r) => (c :: s, r)

/-- Values separated by commas up to the closing bracket; the fuel bounds their number. -/
def items (value : Reader Value) : Nat → Reader (List Value)
  | 0, _ => none
  | fuel + 1, cs =>
    (value cs).bind fun (v, r) =>
      match skipBlank r with
      | ',' :: r => (items value fuel r).map fun (vs, r) => (v :: vs, r)
      | ']' :: r => some ([v], r)
      | _ => none

/-- Members separated by commas up to the closing brace; the fuel bounds their number. -/
def members (value : Reader Value) : Nat → Reader (List (String × Value))
  | 0, _ => none
  | fuel + 1, cs =>
    match skipBlank cs with
    | '"' :: r =>
      (stringBody r).bind fun (key, r) =>
        match skipBlank r with
        | ':' :: r =>
          (value r).bind fun (v, r) =>
            match skipBlank r with
            | ',' :: r =>
              (members value fuel r).map fun (ms, r) => ((String.ofList key, v) :: ms, r)
            | '\x7d' :: r => some ([(String.ofList key, v)], r)
            | _ => none
        | _ => none
    | _ => none

/-- One value; `inner` reads the values inside an array or object, if nesting may go on. -/
def valueWith (inner : Option (Reader Value)) (cs : List Char) : Option (Value × List Char) :=
  match skipBlank cs with
  | 'n' :: 'u' :: 'l' :: 'l' :: r => some (.null, r)
  | 't' :: 'r' :: 'u' :: 'e' :: r => some (.boolean true, r)
  | 'f' :: 'a' :: 'l' :: 's' :: 'e' :: r => some (.boolean false, r)
  | '"' :: r => (stringBody r).map fun (s, r) => (.text (String.ofList s), r)
  | '[' :: r =>
    inner.bind fun value =>
      match skipBlank r with
      | ']' :: r => some (.array [], r)
      | r => (items value r.length r).map fun (vs, r) => (.array vs, r)
  | '\x7b' :: r =>
    inner.bind fun value =>
      match skipBlank r with
      | '\x7d' :: r => some (.object [], r)
      | r => (members value r.length r).map fun (ms, r) => (.ofMembers ms, r)
  | cs => (readNumeral cs).bind fun (n, r) => n.value?.map fun v => (v, r)

def maxDepth : Nat := 127

def value : Nat → Reader Value
  | 0 => valueWith none
  | depth + 1 => valueWith (some (value depth))

def parseChars (cs : List Char) : Option Value :=
  (value maxDepth cs).bind fun (v, r) => if (skipBlank r).isEmpty then some v else none

/-- The value of a whole text, blanks around it allowed. -/
def parse (s : String) : Option Value := parseChars s.toList

end Lifeline.Json
