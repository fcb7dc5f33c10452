import Lifeline.CommandLine.Basic
import Lifeline.Config.Decode
import Lifeline.Terminal.Rehearsal
/-! The whole program: its command line, the configuration that it works with, and what a run leaves
behind in given surroundings. -/
namespace Lifeline.Program

def version : String := "resilient-ws 0.1.0"

def usage : String := "Usage: resilient-ws [--config PATH] <connect|config> [OPTIONS]"

/-- The settings of a file, or the standard ones if it offers none, and the complaint that it
offers none. -/
def configure (path : String) (content : Except String (List UInt8)) : Config × List String :=
  match Config.load content with
  | .ok c => (c, [])
  | .error e =>
    (.standard,
      ["Warning: Could not load config from " ++ path ++ ": " ++ e.message,
        "Using default configuration"])

/-- What the `config` command prints. -/
def summary (c : Config) : List String :=
  ["Current configuration:",
    "  Endpoint: " ++ c.connection.clientConfig.url,
    "  Reconnect: max " ++ c.connection.maxReconnectAttempts.toNat.repr ++ " attempts, " ++
      c.connection.initialDelayMs.toNat.repr ++ "ms initial, " ++
      c.connection.maxDelayMs.toNat.repr ++ "ms cap",
    "  Keepalive: " ++
      match c.connection.pingIntervalSecs with
      | some n => "ping every " ++ n.toNat.repr ++ "s"
      | none => "off",
    "  Logging: " ++ c.telemetry.logLevel ++ " (" ++ c.telemetry.logFormat.label ++ ")"]

def settings (args : CommandLine.ConnectArgs) (base : ConnectionConfig) :
    Except InvalidConnection ConnectionConfig :=
  let c := args.resolve base
  c.validate.map fun _ => c

theorem settings_eq_ok_iff {args : CommandLine.ConnectArgs} {base c : ConnectionConfig} :
    settings args base = .ok c ↔ args.resolve base = c ∧ c.validate = .ok () := by
  have hmap : settings args base =
      (args.resolve base).validate.map fun _ => args.resolve base := rfl
  rw [hmap]
  cases hvalid : (args.resolve base).validate with
  | ok =>
    constructor
    · rintro ⟨⟩
      exact ⟨rfl, hvalid⟩
    · rintro ⟨rfl, -⟩
      rfl
  | error e =>
    constructor
    · rintro ⟨⟩
    · rintro ⟨rfl, hok⟩
      rw [hvalid] at hok
      cases hok

structure Surroundings where
  read : String → Except String (List UInt8)
  /-- Begins to serve metrics on a port, or says why that is not possible. -/
  serve : UInt16 → Except String Unit
  input : List UInt8
  network : Network
  listening : Bool
  host : Option Terminal.Host

/-- What a run leaves behind: lines of its own, or what its terminal did, and its client as it came
to be, if it ever had one. -/
structure Outcome where
  exitCode : Nat
  screen : String
  complaints : List String
  heard : List String
  client : Option Client

namespace Outcome

def failure (exitCode : Nat) (complaints : List String) : Outcome :=
  ⟨exitCode, "", complaints, [], none⟩

def success (screen : String) : Outcome := ⟨0, screen, [], [], none⟩

/-- What a terminal leaves behind. -/
def ofStage (stage : Terminal.Stage) : Outcome :=
  let complaint := stage.ending.bind Terminal.Ending.complaint?
  { exitCode := if complaint.isSome then 1 else 0
    screen := Terminal.screen stage.deeds
    complaints := complaint.toList.map ("Error: " ++ ·)
    heard := stage.heard
    client := some stage.world.client }

def warned (o : Outcome) (warnings : List String) : Outcome :=
  { o with complaints := warnings ++ o.complaints }

end Outcome

def unlines (ls : List String) : String := ls.foldr (fun l s => l ++ "\n" ++ s) ""

/-- Where a terminal starts with its client. -/
def Surroundings.stage (s : Surroundings) (client : Client) : Terminal.Stage :=
  .start (.start s.network s.listening client) s.host s.input

def connect (s : Surroundings) (c : ConnectionConfig) : Outcome :=
  let client := Client.start c.clientConfig .subscription
  .ofStage ((s.stage client).play Session.World.stamina)

def execute (s : Surroundings) (c : Config) (command : CommandLine.Command) : Outcome :=
  match (c.telemetry.metricsPort.map s.serve).getD (.ok ()) with
  | .error reason => .failure 1 ["Error: Failed to install metrics exporter: " ++ reason]
  | .ok () =>
    match command with
    | .config => .success (unlines (summary c))
    | .connect args =>
      match settings args c.connection with
      | .error e => .failure 1 ["Error: " ++ e.message]
      | .ok c => connect s c

/-- A whole run with the words after the program's name. -/
def run (s : Surroundings) (args : List String) : Outcome :=
  match CommandLine.parse args with
  | .error .versionRequested => .success (version ++ "\n")
  | .error .helpRequested => .success (usage ++ "\n")
  | .error e => .failure e.exitCode ["error: " ++ e.message, usage]
  | .ok i =>
    let (config, warnings) := configure i.configPath (s.read i.configPath)
    (execute s config i.command).warned warnings

end Lifeline.Program
