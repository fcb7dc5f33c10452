import Lifeline.CommandLine.Usage
import Lifeline.Config.Basic
/-! The command line of the program: a configuration path, then `connect` with its overrides or
`config`. -/
namespace Lifeline.CommandLine

/-- A decimal number with an optional sign, if 64 bits hold it. -/
def signed64? (s : String) : Option Int :=
  let (negative, ds) := match s.toList with
    | '-' :: r => (true, r)
    | '+' :: r => (false, r)
    | r => (false, r)
  if ds.isEmpty ∨ ¬ds.all Char.isDigit then none
  else
    let n : Int := ds.foldl (fun n c => n * 10 + (c.toNat - '0'.toNat)) (0 : Nat)
    let n := if negative then -n else n
    if -9223372036854775808 ≤ n ∧ n < 9223372036854775808 then some n else none

/-- A number from zero up to, but not including, `size`. -/
def below? (size : Nat) (s : String) : Option Nat :=
  (signed64? s).bind fun n => if 0 ≤ n ∧ n < size then some n.toNat else none

def port? (s : String) : Option UInt16 := (below? UInt16.size s).map UInt16.ofNat

def attempts? (s : String) : Option UInt32 := (below? UInt32.size s).map UInt32.ofNat

/-- The overrides of `connect`; those that are absent leave the configuration as it is. -/
structure ConnectArgs where
  host : Option String
  port : Option UInt16
  path : Option String
  secure : Bool
  maxReconnects : Option UInt32
deriving DecidableEq, Repr

namespace ConnectArgs

def none : ConnectArgs := ⟨.none, .none, .none, false, .none⟩

/-- The connection settings with the overrides put in; `secure` can only be switched on. -/
def resolve (a : ConnectArgs) (base : ConnectionConfig) : ConnectionConfig :=
  { base with
    host := a.host.getD base.host
    port := a.port.getD base.port
    path := a.path.getD base.path
    secure := a.secure || base.secure
    maxReconnectAttempts := a.maxReconnects.getD base.maxReconnectAttempts }

end ConnectArgs

inductive Command
  | connect (args : ConnectArgs)
  | config
deriving DecidableEq, Repr

structure Invocation where
  configPath : String
  command : Command
deriving DecidableEq, Repr

def defaultConfigPath : String := "config.toml"

inductive GlobalOption
  | config
deriving DecidableEq, Repr

inductive ConnectOption
  | host
  | port
  | path
  | secure
  | maxReconnects
deriving DecidableEq, Repr

private def anyText (_ : String) : Bool := true

def globalSwitches : Vocabulary GlobalOption where
  long name :=
    if name = "config" then some (.option .config anyText)
    else if name = "help" then some .help
    else if name = "version" then some .version
    else .none
  short c :=
    if c = 'c' then some (.option .config anyText)
    else if c = 'h' then some .help
    else if c = 'V' then some .version
    else .none

def connectSwitches : Vocabulary ConnectOption where
  long name :=
    if name = "host" then some (.option .host anyText)
    else if name = "port" then some (.option .port fun s => (port? s).isSome)
    else if name = "path" then some (.option .path anyText)
    else if name = "secure" then some (.flag .secure)
    else if name = "max-reconnects" then
      some (.option .maxReconnects fun s => (attempts? s).isSome)
    else if name = "help" then some .help
    else .none
  short c := if c = 'h' then some .help else .none

/-- A subcommand without switches of its own still offers help. -/
def configSwitches : Vocabulary Empty where
  long name := if name = "help" then some .help else .none
  short c := if c = 'h' then some .help else .none

/-- The values of a subcommand, which allows nothing but its switches. -/
def readSwitches {α : Type} [DecidableEq α] (v : Vocabulary α) (args : List String) :
    Except UsageError (List (α × String)) := do
  match ← scan v (Taken.none α) args with
  | .ended t => return (← t.settle).settled
  | .word .. => throw .unknownArgument
  | .behindSeparator _ => throw .unknownArgument

def ConnectArgs.ofValues (values : List (ConnectOption × String)) : ConnectArgs where
  host := values.lookup .host
  port := (values.lookup .port).bind port?
  path := values.lookup .path
  secure := (values.lookup .secure).isSome
  maxReconnects := (values.lookup .maxReconnects).bind attempts?

def isSubcommand (name : String) : Bool := name == "connect" || name == "config" || name == "help"

/-- Help on one subcommand at most. -/
def helpOn : List String → UsageError
  | [] => .helpRequested
  | [name] => if isSubcommand name then .helpRequested else .unknownSubcommand
  | _ => .unknownSubcommand

/-- The words after the program's name. -/
def parse (args : List String) : Except UsageError Invocation := do
  match ← scan globalSwitches (Taken.none GlobalOption) args with
  | .ended t =>
    let t ← t.settle
    throw (if t.settled.isEmpty then .nothingGiven else .missingSubcommand)
  | .behindSeparator text =>
    throw (if isSubcommand text then .unknownArgument else .unknownSubcommand)
  | .word t text rest =>
    let command ←
      if text = "connect" then do
        pure (.connect (.ofValues (← readSwitches connectSwitches rest)))
      else if text = "config" then do
        let _ ← readSwitches configSwitches rest
        pure .config
      else if text = "help" then throw (helpOn rest)
      else throw .unknownSubcommand
    let t ← t.settle
    return ⟨(t.settled.lookup .config).getD defaultConfigPath, command⟩

/-- One word for each override that is present, values attached. -/
def ConnectArgs.words (a : ConnectArgs) : List String :=
  (a.host.map ("--host=" ++ ·)).toList ++
    (a.port.map fun p => "--port=" ++ p.toNat.repr).toList ++
    (a.path.map ("--path=" ++ ·)).toList ++
    (if a.secure then ["--secure"] else []) ++
    (a.maxReconnects.map fun n => "--max-reconnects=" ++ n.toNat.repr).toList

def Invocation.words (i : Invocation) : List String :=
  ("--config=" ++ i.configPath) ::
    match i.command with
    | .connect a => "connect" :: a.words
    | .config => ["config"]

end Lifeline.CommandLine
