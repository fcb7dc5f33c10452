/-! Reading the switches of a command line. A switch is long or short, its value is attached or
follows as the next word; a value that follows is checked only when the next switch comes, so an
unknown word in between is the error that counts. -/
namespace Lifeline.CommandLine

inductive UsageError
  | helpRequested
  | versionRequested
  | nothingGiven
  | missingSubcommand
  | unknownSubcommand
  | unknownArgument
  | missingValue
  | badValue
  | repeatedArgument
  | unwantedValue
deriving DecidableEq, Repr

/-- Asking for help or the version is no failure. -/
def UsageError.exitCode : UsageError → Nat
  | helpRequested => 0
  | versionRequested => 0
  | _ => 2

def UsageError.message : UsageError → String
  | helpRequested => "help was asked for"
  | versionRequested => "the version was asked for"
  | nothingGiven => "nothing to do"
  | missingSubcommand => "a subcommand is missing"
  | unknownSubcommand => "there is no such subcommand"
  | unknownArgument => "there is no such argument"
  | missingValue => "a value is missing"
  | badValue => "a value is not valid"
  | repeatedArgument => "an argument is given twice"
  | unwantedValue => "an argument that takes no value has one"

inductive Switch (α : Type)
  /-- Takes a value that passes the check. -/
  | option (name : α) (accepts : String → Bool)
  | flag (name : α)
  | help
  | version

structure Vocabulary (α : Type) where
  long : String → Option (Switch α)
  short : Char → Option (Switch α)

/-- An option whose value was still to come when it was read. -/
structure Waiting (α : Type) where
  name : α
  accepts : String → Bool
  value : Option String

/-- The values read so far, and the option that is not yet settled. -/
structure Taken (α : Type) where
  settled : List (α × String)
  waiting : Option (Waiting α)

def Taken.none (α : Type) : Taken α := ⟨[], Option.none⟩

inductive Word
  | separator
  | long (name : String) (value : Option String)
  | short (letters : List Char)
  | plain (text : String)
deriving DecidableEq, Repr

/-- Two dashes end the switches, a longer word that starts with them is a long switch with its value
after the first equals sign, and a dash with something after it holds short switches. -/
def Word.ofString (s : String) : Word :=
  match s.toList with
  | '-' :: '-' :: [] => .separator
  | '-' :: '-' :: cs =>
    let name := cs.takeWhile (· != '=')
    match cs.dropWhile (· != '=') with
    | _ :: value => .long (String.ofList name) (some (String.ofList value))
    | [] => .long (String.ofList name) Option.none
  | '-' :: c :: cs => .short (c :: cs)
  | _ => .plain s

/-- Where reading switches ended: at the end, at a word that is no switch, or behind the two
dashes. -/
inductive Stop (α : Type)
  | ended (t : Taken α)
  | word (t : Taken α) (text : String) (rest : List String)
  | behindSeparator (text : String)

variable {α : Type} [DecidableEq α]

/-- Takes a value. Being there already is a worse fault than not passing the check. -/
def Taken.add (t : Taken α) (name : α) (accepts : String → Bool) (value : String) :
    Except UsageError (Taken α) :=
  if t.settled.any (·.1 = name) then .error .repeatedArgument
  else if accepts value then .ok { t with settled := t.settled ++ [(name, value)] }
  else .error .badValue

def Taken.settle (t : Taken α) : Except UsageError (Taken α) :=
  match t.waiting with
  | Option.none => .ok t
  | some w =>
    match w.value with
    | Option.none => .error .missingValue
    | some value => Taken.add { t with waiting := Option.none } w.name w.accepts value

/-- One switch with or without an attached value. -/
def Taken.switch (t : Taken α) (s : Switch α) (value : Option String) :
    Except UsageError (Taken α) :=
  match s, value with
  | .option name accepts, some value => do (← t.settle).add name accepts value
  | .option name accepts, Option.none => do
    return { (← t.settle) with waiting := some ⟨name, accepts, Option.none⟩ }
  | .flag name, Option.none => do (← t.settle).add name (fun _ => true) "true"
  | .help, Option.none => do
    let _ ← t.settle
    throw .helpRequested
  | .version, Option.none => do
    let _ ← t.settle
    throw .versionRequested
  | _, some _ => throw .unwantedValue

/-- The letters of one word; what follows an option's letter is its value. -/
def Taken.letters (v : Vocabulary α) (t : Taken α) : List Char → Except UsageError (Taken α)
  | [] => .ok t
  | c :: cs =>
    match v.short c with
    | Option.none => .error .unknownArgument
    | some (.option name accepts) =>
      t.switch (.option name accepts)
        (match cs with
          | [] => Option.none
          | '=' :: value => some (String.ofList value)
          | value => some (String.ofList value))
    | some s => (t.switch s Option.none).bind fun t => Taken.letters v t cs

def scan (v : Vocabulary α) (t : Taken α) : List String → Except UsageError (Stop α)
  | [] => .ok (.ended t)
  | arg :: rest =>
    match Word.ofString arg with
    | .separator =>
      match rest with
      | [] => .ok (.ended t)
      | text :: _ => .ok (.behindSeparator text)
    | .long name value =>
      match v.long name with
      | Option.none => .error .unknownArgument
      | some s => (t.switch s value).bind fun t => scan v t rest
    | .short letters => (t.letters v letters).bind fun t => scan v t rest
    | .plain text =>
      match t.waiting with
      | some ⟨name, accepts, Option.none⟩ =>
        scan v { t with waiting := some ⟨name, accepts, some text⟩ } rest
      | _ => .ok (.word t text rest)

end Lifeline.CommandLine
