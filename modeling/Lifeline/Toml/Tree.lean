import Lifeline.Toml.Number
/-! The tables of a document while it is being read. A table remembers how it came about, because
that decides what may still be added: a header opens a table once, keys with points extend only
tables that such keys made. -/
namespace Lifeline.Toml

/-- A table under its own header, on the way to one, or on the way to a key with points. -/
inductive Origin
  | header
  | implied
  | dotted
deriving DecidableEq, Repr

inductive Node
  | leaf (v : Value)
  | table (origin : Origin) (entries : List (String × Node))
  | tables (items : List (List (String × Node)))
deriving Repr

abbrev Entries := List (String × Node)

def Entries.replace (key : String) (node : Node) : Entries → Entries
  | [] => []
  | (k, n) :: rest => if k = key then (k, node) :: rest else (k, n) :: Entries.replace key node rest

def Entries.remove (key : String) (es : Entries) : Entries := es.filter fun (k, _) => k != key

/-- Changes the table at the end of a path. Missing tables on the way are made; of an array of
tables the last one is meant. With keys with points, a table under its own header is closed. -/
def Entries.alter (dotted : Bool) (change : Origin → Entries → Option Entries) (origin : Origin) :
    List String → Entries → Option Entries
  | [], es => change origin es
  | k :: ks, es =>
    match es.lookup k with
    | none =>
      let fresh := if dotted then Origin.dotted else .implied
      (Entries.alter dotted change fresh ks []).map fun sub => es ++ [(k, .table fresh sub)]
    | some (.leaf _) => none
    | some (.table o sub) =>
      if dotted ∧ o = .header then none
      else (Entries.alter dotted change o ks sub).map fun sub => es.replace k (.table o sub)
    | some (.tables items) =>
      match items.getLast? with
      | none => none
      | some sub =>
        (Entries.alter dotted change .header ks sub).map fun sub =>
          es.replace k (.tables (items.dropLast ++ [sub]))

/-- Adds a value under a new key; keys before it must lead to a table made by keys with points. -/
def Entries.assign (es : Entries) (path : Path) (v : Value) : Option Entries :=
  es.alter true
    (fun origin es =>
      if path.parents ≠ [] ∧ origin ≠ .dotted then none
      else if (es.lookup path.last).isSome then none
      else some (es ++ [(path.last, .leaf v)]))
    .header path.parents

def Entries.assignAll (es : Entries) (pairs : List (Path × Value)) : Option Entries :=
  pairs.foldlM (fun es (path, v) => es.assign path v) es

/-- A header moves its table to the end of the parent's entries. It may open a table that was only
implied so far. -/
def Entries.addTable (es : Entries) (path : Path) (pairs : List (Path × Value)) : Option Entries :=
  es.alter false
    (fun _ es =>
      match es.lookup path.last with
      | none =>
        (Entries.assignAll [] pairs).map fun sub => es ++ [(path.last, .table .header sub)]
      | some (.table .implied sub) =>
        (Entries.assignAll sub pairs).map fun sub =>
          es.remove path.last ++ [(path.last, .table .header sub)]
      | some _ => none)
    .header path.parents

/-- A header in two brackets adds one more table to an array of tables. -/
def Entries.addToArray (es : Entries) (path : Path) (pairs : List (Path × Value)) :
    Option Entries :=
  es.alter false
    (fun _ es =>
      match es.lookup path.last with
      | none => (Entries.assignAll [] pairs).map fun sub => es ++ [(path.last, .tables [sub])]
      | some (.tables items) =>
        (Entries.assignAll [] pairs).map fun sub => es.replace path.last (.tables (items ++ [sub]))
      | some _ => none)
    .header path.parents

mutual
def Node.value : Node → Value
  | .leaf v => v
  | .table _ entries => .table (entryValues entries)
  | .tables items => .array (tableValues items)

def entryValues : List (String × Node) → List (String × Value)
  | [] => []
  | (k, n) :: rest => (k, n.value) :: entryValues rest

def tableValues : List (List (String × Node)) → List Value
  | [] => []
  | es :: rest => .table (entryValues es) :: tableValues rest
end

end Lifeline.Toml
