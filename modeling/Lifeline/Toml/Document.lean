import Lifeline.Toml.Tree
/-! Reading a whole TOML document: first its sections, each a header with key-value lines, then
the tables they make. -/
namespace Lifeline.Toml

open Text (Reader)

/-- Values up to the closing bracket, a comma after each but the last, where it is optional. -/
def arrayItems (value : Reader Value) : Nat → Reader (List Value)
  | 0, _ => none
  | fuel + 1, cs =>
    (skipLayout false cs).bind fun
      | ']' :: r => some ([], r)
      | cs =>
        (value cs).bind fun (v, r) =>
          (skipLayout false r).bind fun
            | ',' :: r => (arrayItems value fuel r).map fun (vs, r) => (v :: vs, r)
            | ']' :: r => some ([v], r)
            | _ => none

/-- A key path, an equals sign and a value, with the blanks around them. -/
def keyValue (value : Reader Value) (cs : List Char) : Option ((Path × Value) × List Char) := do
  let (path, r) ← readPath cs
  let r ← expect '=' r
  let (v, r) ← value (skipSpace r)
  return ((path, v), skipSpace r)

/-- Key-value pairs up to the closing brace, separated by commas on one line. -/
def inlinePairs (value : Reader Value) : Nat → Reader (List (Path × Value))
  | 0, _ => none
  | fuel + 1, cs =>
    (keyValue value cs).bind fun (pair, r) =>
      match r with
      | ',' :: r => (inlinePairs value fuel r).map fun (ps, r) => (pair :: ps, r)
      | '\x7d' :: r => some ([pair], r)
      | _ => none

/-- One value; `inner` reads the values inside an array or inline table, if nesting may go on. -/
def valueWith (inner : Option (Reader Value)) (cs : List Char) : Option (Value × List Char) :=
  match cs with
  | '[' :: r =>
    inner.bind fun value => (arrayItems value (r.length + 1) r).map fun (vs, r) => (.array vs, r)
  | '\x7b' :: r =>
    inner.bind fun value =>
      match skipSpace r with
      | '\x7d' :: r => some (.table [], r)
      | _ =>
        (inlinePairs value r.length r).bind fun (pairs, r) =>
          (Entries.assignAll [] pairs).map fun es => (.table (entryValues es), r)
  | 't' :: 'r' :: 'u' :: 'e' :: r => some (.boolean true, r)
  | 'f' :: 'a' :: 'l' :: 's' :: 'e' :: r => some (.boolean false, r)
  | c :: r =>
    if c = '"' ∨ c = '\'' then (readString cs).map fun (s, r) => (.text s, r)
    else if c = 'i' ∨ c = 'n' then (readSpecialFloat (c :: r)).map fun (x, r) => (.float x, r)
    else readNumber cs
  | [] => none

def value : Nat → Reader Value
  | 0 => valueWith none
  | depth + 1 => valueWith (some (value depth))

inductive Header
  | table (path : Path)
  | arrayTable (path : Path)
deriving DecidableEq, Repr

inductive Line
  | blank
  | header (h : Header)
  | pair (path : Path) (v : Value)

def readLine (cs : List Char) : Option (Line × List Char) :=
  match skipSpace cs with
  | '[' :: '[' :: r => do
    let (path, r) ← readPath r
    let r ← expect ']' r
    let r ← expect ']' r
    let r ← lineEnd? r
    return (.header (.arrayTable path), r)
  | '[' :: r => do
    let (path, r) ← readPath r
    let r ← expect ']' r
    let r ← lineEnd? r
    return (.header (.table path), r)
  | cs =>
    match lineEnd? cs with
    | some r => some (.blank, r)
    | none => do
      let ((path, v), r) ← keyValue (value (depthLimit - 1)) cs
      let r ← lineEnd? r
      return (.pair path v, r)

/-- All lines of a text; each takes at least one character, which bounds the fuel. -/
def readLines : Nat → List Char → Option (List Line)
  | _, [] => some []
  | 0, _ => none
  | fuel + 1, cs => (readLine cs).bind fun (line, r) => (readLines fuel r).map (line :: ·)

/-- The pairs of one section; the first section has no header. -/
structure Section where
  header : Option Header
  pairs : List (Path × Value)

/-- Groups lines under the headers above them, given the section that is open. -/
def sections (current : Section) : List Line → List Section
  | [] => [current]
  | .blank :: rest => sections current rest
  | .header h :: rest => current :: sections ⟨some h, []⟩ rest
  | .pair path v :: rest => sections { current with pairs := current.pairs ++ [(path, v)] } rest

def Entries.addSection (es : Entries) (s : Section) : Option Entries :=
  match s.header with
  | none => es.assignAll s.pairs
  | some (.table path) => es.addTable path s.pairs
  | some (.arrayTable path) => es.addToArray path s.pairs

/-- The entries of a document's root table. A byte order mark before it is skipped. -/
def parse (s : String) : Option (List (String × Value)) := do
  let cs := match s.toList with
    | '\ufeff' :: r => r
    | cs => cs
  let lines ← readLines cs.length cs
  let root ← (sections ⟨none, []⟩ lines).foldlM Entries.addSection []
  return entryValues root

end Lifeline.Toml
