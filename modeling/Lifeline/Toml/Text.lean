import Lifeline.Text.Reader
/-! The characters of a TOML document: blanks, line ends, comments, strings and keys. -/
namespace Lifeline.Toml

open Text (Reader)

def isSpace (c : Char) : Bool := c == ' ' || c == '\t'

def skipSpace (cs : List Char) : List Char := cs.dropWhile isSpace

/-- Comments and strings hold no control character but the tab. -/
def isPlain (c : Char) : Bool := c == '\t' || (32 ≤ c.toNat && c.toNat != 127)

def newline? : List Char → Option (List Char)
  | '\n' :: r => some r
  | '\r' :: '\n' :: r => some r
  | _ => none

def skipComment : List Char → List Char
  | '#' :: r => r.dropWhile isPlain
  | cs => cs

/-- The rest of a line holds blanks and a comment at most, and may end the document. -/
def lineEnd? (cs : List Char) : Option (List Char) :=
  match skipComment (skipSpace cs) with
  | [] => some []
  | cs => newline? cs

/-- Skips blanks, line ends and comments; every comment is closed by a line end. -/
def skipLayout (inComment : Bool) : List Char → Option (List Char)
  | [] => if inComment then none else some []
  | c :: r =>
    if c = '\n' then skipLayout false r
    else if c = '\r' then
      match r with
      | '\n' :: r => skipLayout false r
      | _ => none
    else if inComment then if isPlain c then skipLayout true r else none
    else if isSpace c then skipLayout false r
    else if c = '#' then skipLayout true r
    else some (c :: r)

def simpleEscape? (c : Char) : Option Char :=
  if c = '"' ∨ c = '\\' then some c
  else if c = 'b' then some '\x08'
  else if c = 't' then some '\t'
  else if c = 'n' then some '\n'
  else if c = 'f' then some '\x0c'
  else if c = 'r' then some '\r'
  else none

def coded? (ds : List Char) : Option Char :=
  if ds.all Text.isHexDigit then Text.scalar? (Text.numeral 16 ds) else none

private def prepend (c : Char) : List Char × List Char → List Char × List Char
  | (s, r) => (c :: s, r)

def basicBody : Reader (List Char)
  | [] => none
  | '"' :: r => some ([], r)
  | '\\' :: 'u' :: a :: b :: c :: d :: r =>
    (coded? [a, b, c, d]).bind fun x => (basicBody r).map (prepend x)
  | '\\' :: 'U' :: a :: b :: c :: d :: e :: f :: g :: h :: r =>
    (coded? [a, b, c, d, e, f, g, h]).bind fun x => (basicBody r).map (prepend x)
  | '\\' :: c :: r => (simpleEscape? c).bind fun x => (basicBody r).map (prepend x)
  | c :: r => if isPlain c then (basicBody r).map (prepend c) else none

def literalBody : Reader (List Char)
  | [] => none
  | c :: r =>
    if c = '\'' then some ([], r)
    else if isPlain c then (literalBody r).map (prepend c) else none

/-- Three marks close a string of several lines; one or two more before them belong to it. -/
def closing? (mark : Char) : List Char → Option (List Char × List Char)
  | a :: b :: c :: r =>
    if a = mark ∧ b = mark ∧ c = mark then
      match r with
      | d :: r' =>
        if d = mark then
          match r' with
          | e :: r'' => if e = mark then some ([mark, mark], r'') else some ([mark], r')
          | [] => some ([mark], [])
        else some ([], r)
      | [] => some ([], [])
    else none
  | _ => none

/-- The characters of a string of several lines. A backslash at the end of a line takes away the
blanks and line ends after it, which are skipped while `trimming`. -/
def multilineBasicBody (trimming : Bool) : Reader (List Char)
  | [] => none
  | c :: r =>
    if trimming ∧ isSpace c then multilineBasicBody true r
    else if c = '\n' then
      if trimming then multilineBasicBody true r
      else (multilineBasicBody false r).map (prepend '\n')
    else if c = '\r' then
      match r with
      | '\n' :: r =>
        if trimming then multilineBasicBody true r
        else (multilineBasicBody false r).map (prepend '\n')
      | _ => none
    else if c = '"' then
      match closing? '"' (c :: r) with
      | some found => some found
      | none => (multilineBasicBody false r).map (prepend '"')
    else if c = '\\' then
      if (newline? (skipSpace r)).isSome then multilineBasicBody true r
      else
        match r with
        | 'u' :: a :: b :: c :: d :: r =>
          (coded? [a, b, c, d]).bind fun x => (multilineBasicBody false r).map (prepend x)
        | 'U' :: a :: b :: c :: d :: e :: f :: g :: h :: r =>
          (coded? [a, b, c, d, e, f, g, h]).bind fun x =>
            (multilineBasicBody false r).map (prepend x)
        | c :: r => (simpleEscape? c).bind fun x => (multilineBasicBody false r).map (prepend x)
        | [] => none
    else if isPlain c then (multilineBasicBody false r).map (prepend c)
    else none

/-- The characters of a string of several lines without escapes; each line end reads as a line
feed. -/
def multilineLiteralBody : Reader (List Char)
  | [] => none
  | c :: r =>
    if c = '\n' then (multilineLiteralBody r).map (prepend '\n')
    else if c = '\r' then
      match r with
      | '\n' :: r => (multilineLiteralBody r).map (prepend '\n')
      | _ => none
    else if c = '\'' then
      match closing? '\'' (c :: r) with
      | some found => some found
      | none => (multilineLiteralBody r).map (prepend '\'')
    else if isPlain c then (multilineLiteralBody r).map (prepend c)
    else none

/-- A line end right after the opening marks does not belong to the string. -/
def skipFirstNewline (cs : List Char) : List Char := (newline? cs).getD cs

def readString (cs : List Char) : Option (String × List Char) :=
  (match cs with
    | '"' :: '"' :: '"' :: r => multilineBasicBody false (skipFirstNewline r)
    | '"' :: r => basicBody r
    | '\'' :: '\'' :: '\'' :: r => multilineLiteralBody (skipFirstNewline r)
    | '\'' :: r => literalBody r
    | _ => none).map fun (s, r) => (String.ofList s, r)

def isBareKey (c : Char) : Bool := c.isAlphanum || c == '-' || c == '_'

def simpleKey (cs : List Char) : Option (String × List Char) :=
  match cs with
  | '"' :: r => (basicBody r).map fun (s, r) => (String.ofList s, r)
  | '\'' :: r => (literalBody r).map fun (s, r) => (String.ofList s, r)
  | cs =>
    let k := cs.takeWhile isBareKey
    if k.isEmpty then none else some (String.ofList k, cs.dropWhile isBareKey)

/-- Keys joined by points, blanks allowed around each; the fuel bounds their number. -/
def dottedKey : Nat → Reader (List String)
  | 0, _ => none
  | fuel + 1, cs =>
    (simpleKey (skipSpace cs)).bind fun (k, r) =>
      match skipSpace r with
      | '.' :: r => (dottedKey fuel r).map fun (ks, r) => (k :: ks, r)
      | r => some ([k], r)

/-- Depth of keys, arrays and inline tables at which a document is refused. -/
def depthLimit : Nat := 80

/-- A key path: all keys but the last, and the last. -/
structure Path where
  parents : List String
  last : String
deriving DecidableEq, Repr

def readPath (cs : List Char) : Option (Path × List Char) :=
  (dottedKey (depthLimit - 1) cs).bind fun (ks, r) =>
    match ks.getLast? with
    | some last => some (⟨ks.dropLast, last⟩, r)
    | none => none

end Lifeline.Toml
